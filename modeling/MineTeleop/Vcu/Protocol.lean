import Mathlib.Data.Fin.VecNotation
import Mathlib.Data.Fintype.Pi
import Mathlib.Data.Rat.Floor
import Mathlib.Tactic.Common

/-!
# CAN frames and signals of the VCU interface

Frames are eight data bytes read as one little-endian 64-bit word; a signal is a bit field of
that word, and a physical value is `raw * factor + offset`.  Doubles are exact rationals here.
-/

namespace MineTeleop.Vcu

abbrev motorCount : ℕ := 8
abbrev steeringAxisCount : ℕ := 4
abbrev brakeCount : ℕ := 8
abbrev parkingBrakeCount : ℕ := 4

abbrev Motors (α : Type) := Fin motorCount → α
abbrev SteeringAxes (α : Type) := Fin steeringAxisCount → α
abbrev Brakes (α : Type) := Fin brakeCount → α
abbrev ParkingBrakes (α : Type) := Fin parkingBrakeCount → α

-- Components and data bytes are numbered by literals.
instance neZero_four : NeZero (4 : ℕ) := ⟨by decide⟩
instance neZero_eight : NeZero (8 : ℕ) := ⟨by decide⟩

/-- Unsigned 16-bit torque, 0.1 Nm/bit, -3200 Nm. -/
def motorTorqueBits : ℕ := 16
def motorTorqueResolutionNm : ℚ := 1 / 10
def motorTorqueMinimumNm : ℚ := -3200
def motorTorqueMaximumNm : ℚ := 33535 / 10

def noRequest : ℤ := 0
def neutralGear : ℤ := 1
def intelligentHandshakeRequest : ℤ := 2
def intelligentHandshakeStatus : ℤ := 5
def manualHandshakeStatus : ℤ := 3
def neutralGearRequest : ℤ := 1
def parkingBrakeHold : ℤ := 0
def parkingBrakeRelease : ℤ := 1
def parkingBrakePark : ℤ := 2
def byWireMode : ℤ := 1
def motorEnable : ℤ := 1
def motorTorqueMode : ℤ := 1
def torqueZeroToleranceNm : ℚ := 2
def stoppedSpeedToleranceMps : ℚ := 1 / 10

namespace Ids

def aduEps01 : BitVec 32 := 0x18F8D0F5#32
def aduEps03 : BitVec 32 := 0x18F9D0F5#32
def aduEhb01 : BitVec 32 := 0x18FFD0F5#32
def aduEhb02 : BitVec 32 := 0x18FAD0F5#32
def aduEpb : BitVec 32 := 0x18FBD0F5#32
def aduShake : BitVec 32 := 0x18FCD0F5#32
def aduBody : BitVec 32 := 0x18FDD0F5#32
def aduVehicleSpeed : BitVec 32 := 0x18FED0F5#32

def wvcuHandshake : BitVec 32 := 0x18F0F5D0#32
def wvcuVehicleStatus : BitVec 32 := 0x18F2F5D0#32
def wvcuVehicleSpeed : BitVec 32 := 0x18F3F5D0#32
def wvcuDriverIntention : BitVec 32 := 0x18F5F5D0#32
def wvcuDriverIntention2 : BitVec 32 := 0x18F6F5D0#32
def wvcuParkingBrake : BitVec 32 := 0x18CFF4D0#32

def motorCommand : Motors (BitVec 32) :=
  ![0x18F0D0F5#32, 0x18F1D0F5#32, 0x18F2D0F5#32, 0x18F3D0F5#32,
    0x18F4D0F5#32, 0x18F5D0F5#32, 0x18F6D0F5#32, 0x18F7D0F5#32]

def motorStatus01 : Motors (BitVec 32) :=
  ![0x18A0F4D0#32, 0x18A3F4D0#32, 0x18A6F4D0#32, 0x18A9F4D0#32,
    0x18ACF4D0#32, 0x18AFF4D0#32, 0x18B2F4D0#32, 0x18B5F4D0#32]

def motorStatus02 : Motors (BitVec 32) :=
  ![0x18A1F4D0#32, 0x18A4F4D0#32, 0x18A7F4D0#32, 0x18AAF4D0#32,
    0x18ADF4D0#32, 0x18B0F4D0#32, 0x18B3F4D0#32, 0x18B6F4D0#32]

def steeringStatus : SteeringAxes (BitVec 32) :=
  ![0x18C0F4D0#32, 0x18C1F4D0#32, 0x18C2F4D0#32, 0x18C3F4D0#32]

def brakeStatus : SteeringAxes (BitVec 32) :=
  ![0x18C8F4D0#32, 0x18C9F4D0#32, 0x18CAF4D0#32, 0x18CBF4D0#32]

end Ids

structure CanFrame where
  id : BitVec 32 := 0
  dlc : ℕ := 8
  data : Fin 8 → BitVec 8 := fun _ => 0
  extended : Bool := true
  deriving DecidableEq

def signalMask (length : ℕ) : BitVec 64 :=
  if 64 ≤ length then BitVec.allOnes 64 else (1#64 <<< length) - 1#64

def loadLittleEndian (data : Fin 8 → BitVec 8) : BitVec 64 :=
  (List.finRange 8).foldl
    (fun value index => value ||| ((data index).setWidth 64 <<< (index.val * 8))) 0

def storeLittleEndian (value : BitVec 64) : Fin 8 → BitVec 8 :=
  fun index => ((value >>> (index.val * 8)) &&& 0xFF#64).setWidth 8

def extractSignal (frame : CanFrame) (start length : ℕ) : BitVec 64 :=
  (loadLittleEndian frame.data >>> start) &&& signalMask length

def insertSignal (frame : CanFrame) (start length : ℕ) (raw : BitVec 64) : CanFrame :=
  let payload := loadLittleEndian frame.data
  let mask := signalMask length <<< start
  { frame with data := storeLittleEndian ((payload &&& ~~~mask) ||| ((raw <<< start) &&& mask)) }

/-- The extracted raw value as the `int` the source casts it to. -/
def signalInt (frame : CanFrame) (start length : ℕ) : ℤ := (extractSignal frame start length).toNat

/-- Rounding to the nearest integer, halves away from zero. -/
def llround (x : ℚ) : ℤ := if 0 ≤ x then ⌊x + 1 / 2⌋ else ⌈x - 1 / 2⌉

def clamp (value minimum maximum : ℚ) : ℚ :=
  if value < minimum then minimum else if maximum < value then maximum else value

def encodePhysical (value factor offset : ℚ) (length : ℕ) (minimum maximum : ℚ) : BitVec 64 :=
  let raw := llround ((clamp value minimum maximum - offset) / factor)
  BitVec.ofNat 64 (min (max raw 0).toNat (signalMask length).toNat)

def decodePhysical (raw : BitVec 64) (factor offset : ℚ) : ℚ := (raw.toNat : ℚ) * factor + offset

def makeMotorFrame (index : Fin motorCount) (command mode : ℤ) (torqueNm speedRpm : ℚ) :
    CanFrame :=
  let frame : CanFrame := { id := Ids.motorCommand index }
  let frame := insertSignal frame 0 3 (BitVec.ofInt 64 command)
  let frame := insertSignal frame 3 3 (BitVec.ofInt 64 mode)
  let frame := insertSignal frame 8 motorTorqueBits
    (encodePhysical torqueNm motorTorqueResolutionNm motorTorqueMinimumNm motorTorqueBits
      motorTorqueMinimumNm motorTorqueMaximumNm)
  insertSignal frame 24 14 (encodePhysical speedRpm 1 (-8000) 14 (-8000) 8383)

/-- The signals of one axis, at bit `base` of a steering frame. -/
def insertSteeringAxis (frame : CanFrame) (base : ℕ) (mode : ℤ) (angleDeg speedDegps : ℚ) :
    CanFrame :=
  let frame := insertSignal frame base 8 (BitVec.ofInt 64 mode)
  let frame := insertSignal frame (base + 8) 16
    (encodePhysical angleDeg (1 / 10) (-1575) 16 (-1575) 1575)
  insertSignal frame (base + 24) 8 (encodePhysical speedDegps 1 0 8 0 255)

def makeSteeringFrame (id : BitVec 32) (axes : List (Fin steeringAxisCount))
    (mode : SteeringAxes ℤ) (angleDeg speedDegps : SteeringAxes ℚ) : CanFrame :=
  axes.zipIdx.foldl
    (fun frame (axis, localAxis) =>
      insertSteeringAxis frame (localAxis * 32) (mode axis) (angleDeg axis) (speedDegps axis))
    { id := id }

def makeBrakeFrame (id : BitVec 32) (brakes : List (Fin brakeCount))
    (mode : Brakes ℤ) (pressureBar : Brakes ℚ) : CanFrame :=
  brakes.zipIdx.foldl
    (fun frame (brake, localBrake) =>
      let frame := insertSignal frame (localBrake * 16) 4 (BitVec.ofInt 64 (mode brake))
      insertSignal frame (localBrake * 16 + 4) 12
        (encodePhysical (pressureBar brake) (1 / 10) 0 12 0 (4095 / 10)))
    { id := id }

def makeEpbFrame (requests : ParkingBrakes ℤ) (steeringMode : ℤ) : CanFrame :=
  let frame := (List.finRange parkingBrakeCount).foldl
    (fun frame index =>
      insertSignal frame (index.val * 8) 2 (BitVec.ofInt 64 (requests index)))
    { id := Ids.aduEpb : CanFrame }
  insertSignal frame 32 3 (BitVec.ofInt 64 steeringMode)

def makeShakeFrame (gear handshakeRequest : ℤ) (faultReset : Bool) : CanFrame :=
  let frame : CanFrame := { id := Ids.aduShake }
  let frame := insertSignal frame 0 8 (BitVec.ofInt 64 handshakeRequest)
  let frame := insertSignal frame 8 8 (BitVec.ofInt 64 gear)
  let frame := insertSignal frame 16 8 (BitVec.ofInt 64 noRequest)
  insertSignal frame 24 1 (if faultReset then 1 else 0)

def makeVehicleSpeedFrame (speedRequestKph : ℚ) (valid : Bool) : CanFrame :=
  let frame : CanFrame := { id := Ids.aduVehicleSpeed }
  let frame := insertSignal frame 0 8
    (encodePhysical (if valid then (⌊speedRequestKph⌋ : ℚ) else 0) 1 0 8 0 255)
  insertSignal frame 8 8 (if valid then 1 else 0)

/-- `find_id`: the first index that carries the id. -/
def findId {n : ℕ} (id : BitVec 32) (ids : Fin n → BitVec 32) : Option (Fin n) :=
  (List.finRange n).find? fun index => ids index == id

end MineTeleop.Vcu
