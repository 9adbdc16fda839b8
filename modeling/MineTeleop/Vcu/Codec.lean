import MineTeleop.Vcu.Batch
import MineTeleop.Vcu.Effects
import MineTeleop.Vcu.Signals
import Mathlib.Tactic.FinCases

/-!
# The frames of a command batch

The sixteen frames of a batch, read back by the signal definitions that wrote them.

Proved here:

* `signal_lens`: the laws of the signal helpers, for every signal and every frame;
* `readBatch_frames`: what is read from the frames of any batch is the batch, up to half a step;
* `codec_recovers`: so is the batch of every tick of every run of the controller.
-/

namespace MineTeleop.Vcu

open BitFields Runs CommandBatch

/-! ## Frames written signal by signal -/

def insertSignals (frame : CanFrame) (writes : List (Field × BitVec 64)) : CanFrame :=
  writes.foldl (fun frame write => insertSignal frame write.1.start write.1.length write.2) frame

theorem load_insertSignals (frame : CanFrame) (writes : List (Field × BitVec 64)) :
    loadLittleEndian (insertSignals frame writes).data =
      putAll (loadLittleEndian frame.data) writes := by
  induction writes generalizing frame with
  | nil => rfl
  | cons write writes ih =>
    have hrest := ih (insertSignal frame write.1.start write.1.length write.2)
    rw [load_insertSignal] at hrest
    exact hrest

theorem load_empty (id : BitVec 32) : loadLittleEndian ({ id := id } : CanFrame).data = 0 := by
  have hzero : loadLittleEndian (fun _ => 0) = 0 := by decide
  exact hzero

/-- Fields of one frame: inside the frame, and none over another. -/
def Layout (fields : List Field) : Prop :=
  fields.Pairwise Field.Disjoint ∧ ∀ f ∈ fields, f.start + f.length ≤ 64

instance (fields : List Field) : Decidable (Layout fields) := inferInstanceAs (Decidable (_ ∧ _))

/-- The frame has the signals, among others that do not overlap them. -/
def Carries (frame : CanFrame) (signals : List (Field × BitVec 64)) : Prop :=
  ∃ id writes, frame = insertSignals { id := id } writes ∧ Layout (writes.map Prod.fst) ∧
    signals ⊆ writes

section
variable {frame : CanFrame} {signals : List (Field × BitVec 64)}

theorem Carries.written {id : BitVec 32} {writes : List (Field × BitVec 64)}
    (hlayout : Layout (writes.map Prod.fst)) : Carries (insertSignals { id := id } writes) writes :=
  ⟨id, writes, rfl, hlayout, fun _ h => h⟩

theorem Carries.extract (h : Carries frame signals) {f : Field} {raw : BitVec 64}
    (hmem : (f, raw) ∈ signals) (hraw : raw.toNat < 2 ^ f.length) :
    (extractSignal frame f.start f.length).toNat = raw.toNat := by
  obtain ⟨id, writes, rfl, hlayout, hsignals⟩ := h
  have hframe := load_insertSignals { id := id } writes
  rw [load_empty] at hframe
  have hwritten := hsignals hmem
  exact extractSignal_of_writes hframe hlayout.1 hwritten
    (hlayout.2 f (List.mem_map_of_mem hwritten)) hraw

theorem Carries.length_le (h : Carries frame signals) {f : Field} {raw : BitVec 64}
    (hmem : (f, raw) ∈ signals) : f.length ≤ 64 := by
  obtain ⟨id, writes, rfl, hlayout, hsignals⟩ := h
  have hfits := hlayout.2 f (List.mem_map_of_mem (hsignals hmem))
  omega

/-- An integer in the range of its field is read back. -/
theorem Carries.signalInt (h : Carries frame signals) (f : Field) {value : ℤ}
    (hmem : (f, BitVec.ofInt 64 value) ∈ signals) (hmin : 0 ≤ value)
    (hmax : value < 2 ^ f.length) : Vcu.signalInt frame f.start f.length = value := by
  have hpow : (2 : ℤ) ^ f.length ≤ 2 ^ 64 := pow_le_pow_right₀ (by decide) (h.length_le hmem)
  have hraw : ((BitVec.ofInt 64 value).toNat : ℤ) = value := by
    rw [BitVec.toNat_ofInt]
    have hmod : value % (2 ^ 64 : ℕ) = value := Int.emod_eq_of_lt hmin (by push_cast; omega)
    rw [hmod]
    exact Int.toNat_of_nonneg hmin
  have hcast : (((BitVec.ofInt 64 value).toNat : ℕ) : ℤ) < ((2 ^ f.length : ℕ) : ℤ) := by
    push_cast
    omega
  rw [Vcu.signalInt, h.extract hmem (by exact_mod_cast hcast), hraw]

/-- A physical value in its range is read back within half a step. -/
theorem Carries.decode (h : Carries frame signals) (s : Scale) (start : ℕ) {value : ℚ}
    (hmem : (⟨start, s.length⟩, s.encode value) ∈ signals) (hrange : s.InRange value) :
    |s.decode (extractSignal frame start s.length) - value| ≤ s.factor / 2 := by
  have hread := h.extract hmem (s.encode_lt value)
  have hsame : extractSignal frame start s.length = s.encode value :=
    BitVec.eq_of_toNat_eq hread
  rw [hsame]
  exact Scale.decode_encode hrange

end

/-! ## Scales -/

def motorTorqueScale : Scale :=
  { factor := motorTorqueResolutionNm
    offset := motorTorqueMinimumNm
    length := motorTorqueBits
    minimum := motorTorqueMinimumNm
    maximum := motorTorqueMaximumNm
    positive := by norm_num [motorTorqueResolutionNm]
    narrow := by decide
    above := le_rfl
    fits := by
      norm_num [motorTorqueMaximumNm, motorTorqueMinimumNm, motorTorqueResolutionNm,
        motorTorqueBits] }

def motorSpeedScale : Scale :=
  { factor := 1
    offset := -8000
    length := 14
    minimum := -8000
    maximum := 8383
    positive := by norm_num
    narrow := by decide
    above := le_rfl
    fits := by norm_num }

def steeringAngleScale : Scale :=
  { factor := 1 / 10
    offset := -1575
    length := 16
    minimum := -1575
    maximum := 1575
    positive := by norm_num
    narrow := by decide
    above := le_rfl
    fits := by norm_num }

/-- Steering and vehicle speeds are whole numbers in a byte. -/
def byteScale : Scale :=
  { factor := 1
    offset := 0
    length := 8
    minimum := 0
    maximum := 255
    positive := by norm_num
    narrow := by decide
    above := le_rfl
    fits := by norm_num }

def brakePressureScale : Scale :=
  { factor := 1 / 10
    offset := 0
    length := 12
    minimum := 0
    maximum := 4095 / 10
    positive := by norm_num
    narrow := by decide
    above := le_rfl
    fits := by norm_num }

/-! ## What the encoders write -/

def motorFields : List Field := [⟨0, 3⟩, ⟨3, 3⟩, ⟨8, 16⟩, ⟨24, 14⟩]

def steeringFields : List Field := [⟨0, 8⟩, ⟨8, 16⟩, ⟨24, 8⟩, ⟨32, 8⟩, ⟨40, 16⟩, ⟨56, 8⟩]

def brakeFields : List Field :=
  [⟨0, 4⟩, ⟨4, 12⟩, ⟨16, 4⟩, ⟨20, 12⟩, ⟨32, 4⟩, ⟨36, 12⟩, ⟨48, 4⟩, ⟨52, 12⟩]

def epbFields : List Field := [⟨0, 2⟩, ⟨8, 2⟩, ⟨16, 2⟩, ⟨24, 2⟩, ⟨32, 3⟩]

def shakeFields : List Field := [⟨0, 8⟩, ⟨8, 8⟩, ⟨16, 8⟩, ⟨24, 1⟩]

def vehicleSpeedFields : List Field := [⟨0, 8⟩, ⟨8, 8⟩]

/-- The signals of each command frame. -/
def commandFields : List (List Field) :=
  [motorFields, steeringFields, brakeFields, epbFields, shakeFields, vehicleSpeedFields]

theorem layout_commandFields : ∀ fields ∈ commandFields, Layout fields := by decide

def motorWrites (command mode : ℤ) (torqueNm speedRpm : ℚ) : List (Field × BitVec 64) :=
  [(⟨0, 3⟩, BitVec.ofInt 64 command), (⟨3, 3⟩, BitVec.ofInt 64 mode),
    (⟨8, 16⟩, motorTorqueScale.encode torqueNm), (⟨24, 14⟩, motorSpeedScale.encode speedRpm)]

def steeringAxisWrites (base : ℕ) (mode : ℤ) (angleDeg speedDegps : ℚ) :
    List (Field × BitVec 64) :=
  [(⟨base, 8⟩, BitVec.ofInt 64 mode), (⟨base + 8, 16⟩, steeringAngleScale.encode angleDeg),
    (⟨base + 24, 8⟩, byteScale.encode speedDegps)]

def brakeWrites (base : ℕ) (mode : ℤ) (pressureBar : ℚ) : List (Field × BitVec 64) :=
  [(⟨base, 4⟩, BitVec.ofInt 64 mode), (⟨base + 4, 12⟩, brakePressureScale.encode pressureBar)]

def epbWrites (requests : ParkingBrakes ℤ) (steeringMode : ℤ) : List (Field × BitVec 64) :=
  [(⟨0, 2⟩, BitVec.ofInt 64 (requests 0)), (⟨8, 2⟩, BitVec.ofInt 64 (requests 1)),
    (⟨16, 2⟩, BitVec.ofInt 64 (requests 2)), (⟨24, 2⟩, BitVec.ofInt 64 (requests 3)),
    (⟨32, 3⟩, BitVec.ofInt 64 steeringMode)]

def shakeWrites (gear handshakeRequest : ℤ) (faultReset : Bool) : List (Field × BitVec 64) :=
  [(⟨0, 8⟩, BitVec.ofInt 64 handshakeRequest), (⟨8, 8⟩, BitVec.ofInt 64 gear),
    (⟨16, 8⟩, BitVec.ofInt 64 noRequest), (⟨24, 1⟩, if faultReset then 1 else 0)]

def vehicleSpeedWrites (speedRequestKph : ℚ) (valid : Bool) : List (Field × BitVec 64) :=
  [(⟨0, 8⟩, byteScale.encode (if valid then (⌊speedRequestKph⌋ : ℚ) else 0)),
    (⟨8, 8⟩, if valid then 1 else 0)]

theorem makeMotorFrame_eq (index : Fin motorCount) (command mode : ℤ) (torqueNm speedRpm : ℚ) :
    makeMotorFrame index command mode torqueNm speedRpm =
      insertSignals { id := Ids.motorCommand index }
        (motorWrites command mode torqueNm speedRpm) := rfl

theorem makeSteeringFrame_eq (id : BitVec 32) (first second : Fin steeringAxisCount)
    (mode : SteeringAxes ℤ) (angleDeg speedDegps : SteeringAxes ℚ) :
    makeSteeringFrame id [first, second] mode angleDeg speedDegps =
      insertSignals { id := id }
        (steeringAxisWrites 0 (mode first) (angleDeg first) (speedDegps first) ++
          steeringAxisWrites 32 (mode second) (angleDeg second) (speedDegps second)) := rfl

theorem makeBrakeFrame_eq (id : BitVec 32) (first second third fourth : Fin brakeCount)
    (mode : Brakes ℤ) (pressureBar : Brakes ℚ) :
    makeBrakeFrame id [first, second, third, fourth] mode pressureBar =
      insertSignals { id := id }
        (brakeWrites 0 (mode first) (pressureBar first) ++
          brakeWrites 16 (mode second) (pressureBar second) ++
          brakeWrites 32 (mode third) (pressureBar third) ++
          brakeWrites 48 (mode fourth) (pressureBar fourth)) := rfl

theorem makeEpbFrame_eq (requests : ParkingBrakes ℤ) (steeringMode : ℤ) :
    makeEpbFrame requests steeringMode =
      insertSignals { id := Ids.aduEpb } (epbWrites requests steeringMode) := rfl

theorem makeShakeFrame_eq (gear handshakeRequest : ℤ) (faultReset : Bool) :
    makeShakeFrame gear handshakeRequest faultReset =
      insertSignals { id := Ids.aduShake } (shakeWrites gear handshakeRequest faultReset) := rfl

theorem makeVehicleSpeedFrame_eq (speedRequestKph : ℚ) (valid : Bool) :
    makeVehicleSpeedFrame speedRequestKph valid =
      insertSignals { id := Ids.aduVehicleSpeed } (vehicleSpeedWrites speedRequestKph valid) := rfl

/-! ## The batch, read back -/

def frameOf (frames : List CanFrame) (id : BitVec 32) : CanFrame :=
  (frames.find? fun frame => frame.id == id).getD { id := id }

/-- The frame of an axis, and where its signals start. -/
def steeringCommandId (axis : Fin steeringAxisCount) : BitVec 32 :=
  if axis.val < 2 then Ids.aduEps01 else Ids.aduEps03

def brakeCommandId (brake : Fin brakeCount) : BitVec 32 :=
  if brake.val < 4 then Ids.aduEhb01 else Ids.aduEhb02

/-- Every quantity by the signal definition of the encoder that wrote it. -/
def readBatch (frames : List CanFrame) : CommandBatch :=
  let motor (index : Fin motorCount) := frameOf frames (Ids.motorCommand index)
  let steering (axis : Fin steeringAxisCount) := frameOf frames (steeringCommandId axis)
  let brake (index : Fin brakeCount) := frameOf frames (brakeCommandId index)
  let epb := frameOf frames Ids.aduEpb
  let shake := frameOf frames Ids.aduShake
  let speed := frameOf frames Ids.aduVehicleSpeed
  { gear := signalInt shake 8 8
    handshakeRequest := signalInt shake 0 8
    steeringMode := signalInt epb 32 3
    parkingBrake := fun index => signalInt epb (index.val * 8) 2
    motorCommand := fun index => signalInt (motor index) 0 3
    motorMode := fun index => signalInt (motor index) 3 3
    steeringAxisMode := fun axis => signalInt (steering axis) (axis.val % 2 * 32) 8
    brakeMode := fun index => signalInt (brake index) (index.val % 4 * 16) 4
    motorTorque := fun index =>
      motorTorqueScale.decode (extractSignal (motor index) 8 motorTorqueBits)
    motorSpeed := fun index => motorSpeedScale.decode (extractSignal (motor index) 24 14)
    steeringAngle := fun axis =>
      steeringAngleScale.decode (extractSignal (steering axis) (axis.val % 2 * 32 + 8) 16)
    steeringSpeed := fun axis =>
      byteScale.decode (extractSignal (steering axis) (axis.val % 2 * 32 + 24) 8)
    brakePressure := fun index =>
      brakePressureScale.decode (extractSignal (brake index) (index.val % 4 * 16 + 4) 12)
    vehicleSpeedRequestKph := byteScale.decode (extractSignal speed 0 8)
    vehicleSpeedRequestValid := decide (signalInt speed 8 8 = 1)
    faultReset := decide (signalInt shake 24 1 = 1) }

section
variable (b : CommandBatch)

theorem carries_motor (index : Fin motorCount) :
    Carries (frameOf b.frames (Ids.motorCommand index))
      (motorWrites (b.motorCommand index) (b.motorMode index) (b.motorTorque index)
        (b.motorSpeed index)) := by
  have hframe : frameOf b.frames (Ids.motorCommand index) =
      makeMotorFrame index (b.motorCommand index) (b.motorMode index) (b.motorTorque index)
        (b.motorSpeed index) := by
    fin_cases index <;> rfl
  rw [hframe, makeMotorFrame_eq]
  exact .written (layout_commandFields motorFields (by decide))

/-- The frame of two axes has the signals of both. -/
theorem carries_makeSteeringFrame (id : BitVec 32) (first second : Fin steeringAxisCount)
    (mode : SteeringAxes ℤ) (angleDeg speedDegps : SteeringAxes ℚ) :
    Carries (makeSteeringFrame id [first, second] mode angleDeg speedDegps)
        (steeringAxisWrites 0 (mode first) (angleDeg first) (speedDegps first)) ∧
      Carries (makeSteeringFrame id [first, second] mode angleDeg speedDegps)
        (steeringAxisWrites 32 (mode second) (angleDeg second) (speedDegps second)) := by
  have hlayout := layout_commandFields steeringFields (by decide)
  rw [makeSteeringFrame_eq]
  exact ⟨⟨id, _, rfl, hlayout, List.subset_append_left _ _⟩,
    ⟨id, _, rfl, hlayout, List.subset_append_right _ _⟩⟩

theorem carries_steering (axis : Fin steeringAxisCount) :
    Carries (frameOf b.frames (steeringCommandId axis))
      (steeringAxisWrites (axis.val % 2 * 32) (b.steeringAxisMode axis) (b.steeringAngle axis)
        (b.steeringSpeed axis)) := by
  have hframes := fun id first second => carries_makeSteeringFrame id first second
    b.steeringAxisMode b.steeringAngle b.steeringSpeed
  fin_cases axis
  · exact (hframes Ids.aduEps01 0 1).1
  · exact (hframes Ids.aduEps01 0 1).2
  · exact (hframes Ids.aduEps03 2 3).1
  · exact (hframes Ids.aduEps03 2 3).2

/-- The frame of four brakes has the signals of each. -/
theorem carries_makeBrakeFrame (id : BitVec 32) (brakes : Fin 4 → Fin brakeCount)
    (mode : Brakes ℤ) (pressureBar : Brakes ℚ) (place : Fin 4) :
    Carries (makeBrakeFrame id [brakes 0, brakes 1, brakes 2, brakes 3] mode pressureBar)
      (brakeWrites (place.val * 16) (mode (brakes place)) (pressureBar (brakes place))) := by
  have hlayout := layout_commandFields brakeFields (by decide)
  rw [makeBrakeFrame_eq]
  refine ⟨id, _, rfl, hlayout, ?_⟩
  intro signal hsignal
  fin_cases place
  · exact List.mem_append_left _ (List.mem_append_left _ (List.mem_append_left _ hsignal))
  · exact List.mem_append_left _ (List.mem_append_left _ (List.mem_append_right _ hsignal))
  · exact List.mem_append_left _ (List.mem_append_right _ hsignal)
  · exact List.mem_append_right _ hsignal

theorem carries_brake (index : Fin brakeCount) :
    Carries (frameOf b.frames (brakeCommandId index))
      (brakeWrites (index.val % 4 * 16) (b.brakeMode index) (b.brakePressure index)) := by
  have hframes := fun id brakes place => carries_makeBrakeFrame id brakes b.brakeMode
    b.brakePressure place
  fin_cases index
  · exact hframes Ids.aduEhb01 ![0, 1, 2, 3] 0
  · exact hframes Ids.aduEhb01 ![0, 1, 2, 3] 1
  · exact hframes Ids.aduEhb01 ![0, 1, 2, 3] 2
  · exact hframes Ids.aduEhb01 ![0, 1, 2, 3] 3
  · exact hframes Ids.aduEhb02 ![4, 5, 6, 7] 0
  · exact hframes Ids.aduEhb02 ![4, 5, 6, 7] 1
  · exact hframes Ids.aduEhb02 ![4, 5, 6, 7] 2
  · exact hframes Ids.aduEhb02 ![4, 5, 6, 7] 3

theorem carries_epb :
    Carries (frameOf b.frames Ids.aduEpb) (epbWrites b.parkingBrake b.steeringMode) := by
  have hframe : frameOf b.frames Ids.aduEpb = makeEpbFrame b.parkingBrake b.steeringMode := rfl
  rw [hframe, makeEpbFrame_eq]
  exact .written (layout_commandFields epbFields (by decide))

theorem carries_shake :
    Carries (frameOf b.frames Ids.aduShake)
      (shakeWrites b.gear b.handshakeRequest b.faultReset) := by
  have hframe : frameOf b.frames Ids.aduShake =
      makeShakeFrame b.gear b.handshakeRequest b.faultReset := rfl
  rw [hframe, makeShakeFrame_eq]
  exact .written (layout_commandFields shakeFields (by decide))

theorem carries_vehicleSpeed :
    Carries (frameOf b.frames Ids.aduVehicleSpeed)
      (vehicleSpeedWrites b.vehicleSpeedRequestKph b.vehicleSpeedRequestValid) := by
  have hframe : frameOf b.frames Ids.aduVehicleSpeed =
      makeVehicleSpeedFrame b.vehicleSpeedRequestKph b.vehicleSpeedRequestValid := rfl
  rw [hframe, makeVehicleSpeedFrame_eq]
  exact .written (layout_commandFields vehicleSpeedFields (by decide))

end

/-- The quantities of a batch, but for the brake pressures, are in the ranges of their signals. -/
structure Encodable (b : CommandBatch) : Prop where
  gear : 0 ≤ b.gear ∧ b.gear < 2 ^ 8
  handshakeRequest : 0 ≤ b.handshakeRequest ∧ b.handshakeRequest < 2 ^ 8
  steeringMode : 0 ≤ b.steeringMode ∧ b.steeringMode < 2 ^ 3
  parkingBrake : ∀ i, 0 ≤ b.parkingBrake i ∧ b.parkingBrake i < 2 ^ 2
  motorCommand : ∀ i, 0 ≤ b.motorCommand i ∧ b.motorCommand i < 2 ^ 3
  motorMode : ∀ i, 0 ≤ b.motorMode i ∧ b.motorMode i < 2 ^ 3
  steeringAxisMode : ∀ i, 0 ≤ b.steeringAxisMode i ∧ b.steeringAxisMode i < 2 ^ 8
  brakeMode : ∀ i, 0 ≤ b.brakeMode i ∧ b.brakeMode i < 2 ^ 4
  motorTorque : ∀ i, motorTorqueScale.InRange (b.motorTorque i)
  motorSpeed : ∀ i, motorSpeedScale.InRange (b.motorSpeed i)
  steeringAngle : ∀ i, steeringAngleScale.InRange (b.steeringAngle i)
  steeringSpeed : ∀ i, byteScale.InRange (b.steeringSpeed i)

/-- A batch that was read, against the one that was written. -/
structure Recovers (read b : CommandBatch) : Prop where
  gear : read.gear = b.gear
  handshakeRequest : read.handshakeRequest = b.handshakeRequest
  steeringMode : read.steeringMode = b.steeringMode
  parkingBrake : read.parkingBrake = b.parkingBrake
  motorCommand : read.motorCommand = b.motorCommand
  motorMode : read.motorMode = b.motorMode
  steeringAxisMode : read.steeringAxisMode = b.steeringAxisMode
  brakeMode : read.brakeMode = b.brakeMode
  motorTorque : ∀ i, |read.motorTorque i - b.motorTorque i| ≤ motorTorqueScale.factor / 2
  motorSpeed : ∀ i, |read.motorSpeed i - b.motorSpeed i| ≤ motorSpeedScale.factor / 2
  steeringAngle : ∀ i, |read.steeringAngle i - b.steeringAngle i| ≤ steeringAngleScale.factor / 2
  steeringSpeed : ∀ i, |read.steeringSpeed i - b.steeringSpeed i| ≤ byteScale.factor / 2
  brakePressure : ∀ i, brakePressureScale.InRange (b.brakePressure i) →
    |read.brakePressure i - b.brakePressure i| ≤ brakePressureScale.factor / 2
  vehicleSpeedRequestValid : read.vehicleSpeedRequestValid = b.vehicleSpeedRequestValid
  faultReset : read.faultReset = b.faultReset

/-- A flag of one signal. -/
theorem Carries.flag {frame : CanFrame} {signals : List (Field × BitVec 64)}
    (h : Carries frame signals) (f : Field) {value : Bool}
    (hmem : (f, if value then (1 : BitVec 64) else 0) ∈ signals) (hlength : 0 < f.length) :
    decide (Vcu.signalInt frame f.start f.length = 1) = value := by
  have hone : 1 < 2 ^ f.length := Nat.one_lt_two_pow (by omega)
  have hraw : (if value then (1 : BitVec 64) else 0).toNat < 2 ^ f.length := by
    cases value
    · exact hone.pos
    · exact hone
  rw [Vcu.signalInt, h.extract hmem hraw]
  cases value <;> rfl

/-- Any batch of values in range is read back from its frames. -/
theorem readBatch_frames {b : CommandBatch} (h : Encodable b) :
    Recovers (readBatch b.frames) b where
  gear := (carries_shake b).signalInt ⟨8, 8⟩ (by simp [shakeWrites]) h.gear.1 h.gear.2
  handshakeRequest := (carries_shake b).signalInt ⟨0, 8⟩ (by simp [shakeWrites])
    h.handshakeRequest.1 h.handshakeRequest.2
  steeringMode := (carries_epb b).signalInt ⟨32, 3⟩ (by simp [epbWrites]) h.steeringMode.1
    h.steeringMode.2
  parkingBrake := by
    funext index
    refine (carries_epb b).signalInt ⟨index.val * 8, 2⟩ ?_ (h.parkingBrake index).1
      (h.parkingBrake index).2
    fin_cases index
    · exact .head _
    · exact .tail _ (.head _)
    · exact .tail _ (.tail _ (.head _))
    · exact .tail _ (.tail _ (.tail _ (.head _)))
  motorCommand := funext fun index => (carries_motor b index).signalInt ⟨0, 3⟩
    (by simp [motorWrites]) (h.motorCommand index).1 (h.motorCommand index).2
  motorMode := funext fun index => (carries_motor b index).signalInt ⟨3, 3⟩
    (by simp [motorWrites]) (h.motorMode index).1 (h.motorMode index).2
  steeringAxisMode := funext fun axis => (carries_steering b axis).signalInt
    ⟨axis.val % 2 * 32, 8⟩ (by simp [steeringAxisWrites]) (h.steeringAxisMode axis).1
    (h.steeringAxisMode axis).2
  brakeMode := funext fun index => (carries_brake b index).signalInt ⟨index.val % 4 * 16, 4⟩
    (by simp [brakeWrites]) (h.brakeMode index).1 (h.brakeMode index).2
  motorTorque := fun index => (carries_motor b index).decode motorTorqueScale 8
    (by simp [motorWrites, motorTorqueScale, motorTorqueBits]) (h.motorTorque index)
  motorSpeed := fun index => (carries_motor b index).decode motorSpeedScale 24
    (by simp [motorWrites, motorSpeedScale]) (h.motorSpeed index)
  steeringAngle := fun axis => (carries_steering b axis).decode steeringAngleScale _
    (by simp [steeringAxisWrites, steeringAngleScale]) (h.steeringAngle axis)
  steeringSpeed := fun axis => (carries_steering b axis).decode byteScale _
    (by simp [steeringAxisWrites, byteScale]) (h.steeringSpeed axis)
  brakePressure := fun index hrange => (carries_brake b index).decode brakePressureScale _
    (by simp [brakeWrites, brakePressureScale]) hrange
  vehicleSpeedRequestValid := (carries_vehicleSpeed b).flag ⟨8, 8⟩
    (by simp [vehicleSpeedWrites]) (by decide)
  faultReset := (carries_shake b).flag ⟨24, 1⟩ (by simp [shakeWrites]) (by decide)

/-! ## Batches of accepted commands -/

/-- Both commands of the controller are ones that `command_valid` accepts. -/
def Commanded (c : Controller) : Prop := CommandValid c.desired ∧ CommandValid c.emergency

section
variable {c c' : Controller}

theorem Commanded.of_eq (h : Commanded c) (hdesired : c'.desired = c.desired)
    (hemergency : c'.emergency = c.emergency) : Commanded c' := by
  unfold Commanded
  rw [hdesired, hemergency]
  exact h

theorem commandValid_withoutTraction {command : Command} (h : CommandValid command) :
    CommandValid (withoutTraction command) := by
  obtain ⟨hlow, hhigh, -, -, -, -, hangle, hspeed, hbrake⟩ := h
  refine ⟨hlow, hhigh, by simp [withoutTraction], by simp [withoutTraction], fun i => ?_,
    fun i => ?_, hangle, hspeed, hbrake⟩
  · norm_num [withoutTraction, motorTorqueMinimumNm, motorTorqueMaximumNm]
  · norm_num [withoutTraction]

theorem commandValid_still {command : Command} (h : CommandValid command) :
    CommandValid { command with motorTorqueNm := fun _ => 0, motorSpeedRpm := fun _ => 0 } := by
  obtain ⟨hlow, hhigh, hkph, hkph', -, -, hangle, hspeed, hbrake⟩ := h
  refine ⟨hlow, hhigh, hkph, hkph', fun i => ?_, fun i => ?_, hangle, hspeed, hbrake⟩
  · norm_num [motorTorqueMinimumNm, motorTorqueMaximumNm]
  · norm_num

theorem commanded_setCommand (h : Commanded c) (command : Command) :
    Commanded (setCommand c command).2 := by
  have hcase := setCommand_cases c command
  generalize setCommand c command = result at hcase ⊢
  cases hcase with
  | rejected => exact h
  | moving g hgear hshut => exact ⟨commandValid_withoutTraction h.1, h.2⟩
  | accepted hv hsame => exact ⟨hv, h.2⟩
  | regear hv hgear hready => exact ⟨hv, h.2⟩

theorem commanded_setEmergencyCommand (h : Commanded c) (command : Command) :
    Commanded (setEmergencyCommand c command).2 := by
  unfold setEmergencyCommand
  split
  · exact h
  · rename_i hvalid
    push Not at hvalid
    exact ⟨h.1, commandValid_still hvalid.1⟩

theorem commandValid_neutral : CommandValid { gear := neutralGear } := by decide +kernel

theorem commanded_reset : Commanded reset := ⟨by decide +kernel, by decide +kernel⟩

theorem commanded_respond (h : Commanded c) (e : Event) : Commanded (respond c e).2 := by
  cases e with
  | reset => exact commanded_reset
  | setCommand command => exact commanded_setCommand h command
  | setEmergencyCommand command => exact commanded_setEmergencyCommand h command
  | setAutomaticParking enabled requested stoppedFresh brakeBar => exact h
  | emergencyStop =>
    obtain ⟨g, hframe⟩ := emergencyStop_frame c
    exact h.of_eq (by rw [respond, hframe]) (by rw [respond, hframe])
  | clearEmergencyStop =>
    simp only [respond, clearEmergencyStop]
    split <;> exact h
  | requestParallelHandshake =>
    simp only [respond, requestParallelHandshake]
    split
    · exact h
    · exact ⟨commandValid_neutral, h.2⟩
  | requestDisarm =>
    simp only [respond, requestDisarm]
    split_ifs <;> exact h
  | transportFault => exact h
  | ingest frame =>
    obtain ⟨hdesired, hemergency, -⟩ := ingest_keeps c frame
    exact h.of_eq hdesired hemergency
  | tick => exact h.of_eq (advanceState_desired c) (advanceState_emergency c)

/-- What a controller with accepted commands transmits is in range. -/
theorem encodable_commandBatch (h : Commanded c) : Encodable (commandBatch c) := by
  obtain ⟨⟨hgear, hgear', -, -, htorque, hspeed, hangle, hrate, -⟩, -⟩ := h
  constructor
  case gear =>
    rw [commandBatch_gear]
    split_ifs
    · decide
    · exact ⟨by omega, by omega⟩
    · decide
  case handshakeRequest =>
    rw [commandBatch_handshakeRequest]
    split_ifs <;> decide
  case steeringMode =>
    rw [commandBatch_steeringMode]
    split_ifs <;> decide
  case parkingBrake =>
    intro i
    rw [commandBatch_parkingBrake]
    split_ifs <;> beta_reduce <;> decide
  case motorCommand =>
    intro i
    rw [commandBatch_motorCommand]
    split_ifs <;> beta_reduce <;> decide
  case motorMode =>
    intro i
    rw [commandBatch_motorMode]
    split_ifs <;> beta_reduce <;> decide
  case steeringAxisMode =>
    intro i
    rw [commandBatch_steeringAxisMode]
    split_ifs <;> beta_reduce <;> decide
  case brakeMode =>
    intro i
    rw [commandBatch_brakeMode]
    split_ifs <;> beta_reduce <;> decide
  case motorTorque =>
    intro i
    have hzero : motorTorqueScale.InRange 0 := by decide +kernel
    rw [commandBatch_motorTorque]
    split_ifs
    · exact hzero
    · exact hzero
    · exact htorque i
    · exact hzero
  case motorSpeed =>
    intro i
    have hzero : motorSpeedScale.InRange 0 := by decide +kernel
    rw [commandBatch_motorSpeed]
    split_ifs
    · exact hzero
    · exact hzero
    · exact hspeed i
    · exact hzero
  case steeringAngle =>
    intro i
    have hzero : steeringAngleScale.InRange 0 := by decide +kernel
    have hdesired : steeringAngleScale.InRange (c.desired.steeringAngleDeg i) := by
      obtain ⟨hlow, hhigh⟩ := hangle i
      have hwide : steeringAngleScale.minimum ≤ -30 ∧ 30 ≤ steeringAngleScale.maximum := by
        decide +kernel
      exact ⟨hwide.1.trans hlow, hhigh.trans hwide.2⟩
    rw [commandBatch_steeringAngle]
    split_ifs
    · exact hdesired
    · exact hzero
    · exact hdesired
    · exact hzero
  case steeringSpeed =>
    intro i
    have hzero : byteScale.InRange 0 := by decide +kernel
    rw [commandBatch_steeringSpeed]
    split_ifs
    · exact hrate i
    · exact hrate i
    · exact hzero

/-- The pressures are in range too when automatic parking was given one that is. -/
theorem brakePressure_inRange (h : Commanded c)
    (hparking : brakePressureScale.InRange c.parkingBrakeBar) (i : Fin brakeCount) :
    brakePressureScale.InRange ((commandBatch c).brakePressure i) := by
  obtain ⟨⟨-, -, -, -, -, -, -, -, hdesired⟩, ⟨-, -, -, -, -, -, -, -, hemergency⟩⟩ := h
  have hzero : brakePressureScale.InRange 0 := by decide +kernel
  rw [commandBatch_brakePressure]
  split_ifs
  · exact hemergency i
  · exact hparking
  · exact hdesired i
  · exact hzero

end

/-! ## The laws of the codec -/

/-- The signal helpers are a lens on the signal, for every signal and every frame. -/
structure SignalLens : Prop where
  reads : ∀ (frame : CanFrame) (f : Field) (raw : BitVec 64),
    (extractSignal (insertSignal frame f.start f.length raw) f.start f.length).toNat =
      raw.toNat % 2 ^ min f.length (64 - f.start)
  keeps : ∀ (frame : CanFrame) (f : Field) (raw : BitVec 64) (i : ℕ), ¬f.Covers i →
    (loadLittleEndian (insertSignal frame f.start f.length raw).data).getLsbD i =
      (loadLittleEndian frame.data).getLsbD i
  header : ∀ (frame : CanFrame) (f : Field) (raw : BitVec 64),
    { insertSignal frame f.start f.length raw with data := frame.data } = frame
  restores : ∀ (frame : CanFrame) (f : Field),
    insertSignal frame f.start f.length (extractSignal frame f.start f.length) = frame
  overwrites : ∀ (frame : CanFrame) (f : Field) (raw raw' : BitVec 64),
    insertSignal (insertSignal frame f.start f.length raw) f.start f.length raw' =
      insertSignal frame f.start f.length raw'

theorem signal_lens : SignalLens where
  reads frame f raw := by
    rw [extractSignal_eq, load_insertSignal, toNat_get_put]
  keeps frame f raw i h := by
    rw [load_insertSignal, getLsbD_put, if_neg h]
  header frame f raw := rfl
  restores frame f := by
    rw [insertSignal_eq, extractSignal_eq, put_get, store_load]
  overwrites frame f raw raw' := by
    rw [insertSignal_eq, load_insertSignal, put_put, insertSignal_eq, insertSignal_eq]

/-- The batch of a tick is read back from its sixteen frames. -/
structure CodecLaw (st : Step Controller Event Reply) : Prop where
  recovers : ∀ batch, st.output = .batch batch →
    batch.frames.length = 16 ∧ Recovers (readBatch batch.frames) batch
  pressures : ∀ batch, st.output = .batch batch →
    brakePressureScale.InRange st.before.parkingBrakeBar →
    ∀ i, brakePressureScale.InRange (batch.brakePressure i)

theorem codecLaw_step {c : Controller} (h : Commanded c) (e : Event) :
    CodecLaw (machine.observe c e) := by
  constructor
  · intro batch hbatch
    cases e with
    | tick =>
      obtain rfl := Reply.batch.inj hbatch
      have hadvanced : Commanded (advanceState c) :=
        h.of_eq (advanceState_desired c) (advanceState_emergency c)
      exact ⟨rfl, readBatch_frames (encodable_commandBatch hadvanced)⟩
    | _ => cases hbatch
  · intro batch hbatch hparking
    cases e with
    | tick =>
      obtain rfl := Reply.batch.inj hbatch
      have hadvanced : Commanded (advanceState c) :=
        h.of_eq (advanceState_desired c) (advanceState_emergency c)
      refine brakePressure_inRange hadvanced ?_
      rw [advanceState_parkingBrakeBar]
      exact hparking
    | _ => cases hbatch

/-- Signals are lenses and do not overlap, and every batch is read back: that of any controller with
accepted commands, and so that of every run. -/
theorem codec_recovers :
    SignalLens ∧ (∀ fields ∈ commandFields, Layout fields) ∧
    (∀ c, Commanded c → CodecLaw (machine.observe c .tick)) ∧
    ∀ (h : History Controller Event Reply) (c : Controller), Run machine h c → Steps CodecLaw h :=
  ⟨signal_lens, layout_commandFields, fun _ hi => codecLaw_step hi .tick, fun _ _ hr =>
    hr.always_of_invariant commanded_reset (fun _ e hi => commanded_respond hi e)
      fun _ e hi => codecLaw_step hi e⟩

end MineTeleop.Vcu
