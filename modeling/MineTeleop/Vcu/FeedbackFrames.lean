import MineTeleop.Vcu.Tick

/-!
# Feedback frames of a bench record

The frames that the bridge's `inject` builds from a feedback record, in the order in which it
ingests them.  Its ABI has no torque field: each motor reports a physical zero.  `armWith` is the
arming sequence that such records drive.
-/

namespace MineTeleop.Vcu

/-- `MineTeleopChassisFeedback`. -/
structure FeedbackRecord where
  shakeHandStatus : ℤ := 3
  epbStatus : ParkingBrakes ℤ := fun _ => 2
  gearStatus : ℤ := 1
  mcuMode : Motors ℤ := fun _ => 0
  epsMode : SteeringAxes ℤ := fun _ => 0
  epsAngle : SteeringAxes ℚ := fun _ => 0
  ehbMode : Brakes ℤ := fun _ => 0
  vehicleSpeed : ℚ := 0
  vehicleSpeedValid : Bool := true
  driverGearRequest : ℤ := 1
  driverGearRequestValid : Bool := true

/-- A frame with some of its bytes set. -/
def frameWith (id : BitVec 32) (bytes : List (Fin 8 × BitVec 8)) : CanFrame :=
  { id := id, data := bytes.foldl (fun data byte => Function.update data byte.1 byte.2) fun _ => 0 }

def handshakeFrame (status : ℤ) : CanFrame :=
  frameWith Ids.wvcuHandshake [(1, BitVec.ofInt 8 status)]

def vehicleStatusFrame (gear : ℤ) : CanFrame :=
  frameWith Ids.wvcuVehicleStatus [(0, (BitVec.ofInt 8 gear &&& 0x03#8) <<< 2)]

def parkingBrakeFrame (status : ParkingBrakes ℤ) : CanFrame :=
  frameWith Ids.wvcuParkingBrake
    [(0, BitVec.ofInt 8 (status 0)), (2, BitVec.ofInt 8 (status 1)),
      (4, BitVec.ofInt 8 (status 2)), (6, BitVec.ofInt 8 (status 3))]

def motorModeFrame (index : Fin motorCount) (mode : ℤ) : CanFrame :=
  frameWith (Ids.motorStatus02 index) [(0, (BitVec.ofInt 8 mode &&& 0x0F#8) <<< 4)]

def zeroTorqueFrame (index : Fin motorCount) : CanFrame :=
  frameWith (Ids.motorStatus01 index) [(2, 0x00#8), (3, 0x7D#8)]

/-- The two low bytes of a raw value. -/
def lowBytes (raw : ℤ) : BitVec 8 × BitVec 8 :=
  (BitVec.ofInt 8 raw, BitVec.ofInt 8 (raw / 256))

def steeringFrame (index : Fin steeringAxisCount) (mode : ℤ) (angle : ℚ) : CanFrame :=
  let raw := lowBytes (llround ((clamp angle (-1575) 1575 + 1575) / (1 / 10)))
  frameWith (Ids.steeringStatus index) [(0, BitVec.ofInt 8 mode), (1, raw.1), (2, raw.2)]

def brakeFrame (index : Fin steeringAxisCount) (first second : ℤ) : CanFrame :=
  frameWith (Ids.brakeStatus index) [(0, BitVec.ofInt 8 first), (4, BitVec.ofInt 8 second)]

def vehicleSpeedFrame (speedMps : ℚ) : CanFrame :=
  let raw := lowBytes
    (llround ((clamp (speedMps * (36 / 10)) (-500) (60535 / 10) + 500) / (1 / 10)))
  frameWith Ids.wvcuVehicleSpeed [(0, raw.1), (1, raw.2)]

def driverIntentionFrame (gearRequest : ℤ) : CanFrame :=
  frameWith Ids.wvcuDriverIntention [(7, (BitVec.ofInt 8 gearRequest &&& 0x07#8) <<< 1)]

def injectedFrames (r : FeedbackRecord) : List CanFrame :=
  [handshakeFrame r.shakeHandStatus, vehicleStatusFrame r.gearStatus,
    parkingBrakeFrame r.epbStatus] ++
  (List.finRange motorCount).flatMap (fun index =>
    [motorModeFrame index (r.mcuMode index), zeroTorqueFrame index]) ++
  (List.finRange steeringAxisCount).map (fun index =>
    steeringFrame index (r.epsMode index) (r.epsAngle index)) ++
  [brakeFrame 0 (r.ehbMode 0) (r.ehbMode 1), brakeFrame 1 (r.ehbMode 2) (r.ehbMode 3),
    brakeFrame 2 (r.ehbMode 4) (r.ehbMode 5), brakeFrame 3 (r.ehbMode 6) (r.ehbMode 7)] ++
  (if r.vehicleSpeedValid then [vehicleSpeedFrame r.vehicleSpeed] else []) ++
  (if r.driverGearRequestValid then [driverIntentionFrame r.driverGearRequest] else [])

/-- Arm from reset up to `WaitActuatorModes` with a command in gear 2, then inject a record. -/
def armWith (command : Command) (record : FeedbackRecord) : List Event :=
  (injectedFrames {}).map .ingest ++ [.requestParallelHandshake] ++ List.replicate 6 .tick ++
  [.ingest (handshakeFrame 5), .tick, .ingest (parkingBrakeFrame fun _ => 1), .tick,
    .setCommand command, .ingest (vehicleStatusFrame 2), .tick] ++
  (injectedFrames record).map .ingest

/-- Handshake 5, brakes released, gear 2 and every actuator in its mode. -/
def armedRecord : FeedbackRecord :=
  { shakeHandStatus := 5, epbStatus := fun _ => 1, gearStatus := 2, mcuMode := fun _ => 1,
    epsMode := fun _ => 1, ehbMode := fun _ => 1 }

end MineTeleop.Vcu
