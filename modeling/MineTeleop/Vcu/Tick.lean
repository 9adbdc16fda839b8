import MineTeleop.Vcu.Controller

/-!
# The 20 ms tick of the parallel controller

`tick` advances the state machine and builds the batch from the state it reached.  The batch is
built by the blocks of the source in their order, each one a function on the values of the
blocks before it.  `machine` is the controller as a machine whose events are its member
functions.
-/

namespace MineTeleop.Vcu

open Runs

/-! ## The state machine -/

def ActuatorModesConfirmed (c : Controller) : Prop :=
  AllNewerThan c.motorModeGeneration c.stateEntryGeneration ∧
  AllNewerThan c.motorTorqueGeneration c.stateEntryGeneration ∧
  AllNewerThan c.steeringGeneration c.stateEntryGeneration ∧
  AllNewerThan c.brakeGeneration c.stateEntryGeneration ∧
  AllEqualValid c.feedback.motorMode c.feedback.motorModeValid motorTorqueMode ∧
  AllValid c.feedback.motorTorqueValid ∧
  AllEqualValid c.feedback.steeringMode c.feedback.steeringValid byWireMode ∧
  AllEqualValid c.feedback.brakeMode c.feedback.brakeValid byWireMode

instance (c : Controller) : Decidable (ActuatorModesConfirmed c) :=
  inferInstanceAs (Decidable (_ ∧ _))

def ManualConfirmed (c : Controller) : Prop :=
  c.feedback.handshakeValid = true ∧ c.stateEntryGeneration < c.handshakeGeneration ∧
  c.feedback.handshakeStatus = manualHandshakeStatus ∧
  c.feedback.gearValid = true ∧ c.stateEntryGeneration < c.gearGeneration ∧
  c.feedback.gear = neutralGear ∧ c.feedback.speedValid = true ∧
  c.stateEntryGeneration < c.speedGeneration ∧ c.feedback.Stopped ∧
  c.stateEntryGeneration < c.parkingBrakeGeneration ∧
  c.feedback.ParkingBrakesAt parkingBrakePark

instance (c : Controller) : Decidable (ManualConfirmed c) := inferInstanceAs (Decidable (_ ∧ _))

/-- The `switch` of `advance_state`: what each state waits for. -/
def advanceStage (c : Controller) : Controller :=
  match c.state with
  | .standby | .ready | .disarmed | .fault => c
  | .initial =>
    if 5 ≤ c.initialFrameCount then enter c .waitParallelHandshake
    else { c with initialFrameCount := c.initialFrameCount + 1 }
  | .waitParallelHandshake =>
    if c.feedback.handshakeValid = true ∧ c.stateEntryGeneration < c.handshakeGeneration ∧
        c.feedback.handshakeStatus = intelligentHandshakeStatus then
      enter c (if c.automaticParking then .waitGear else .waitParkingBrakeReleased)
    else c
  | .waitParkingBrakeReleased =>
    if c.stateEntryGeneration < c.parkingBrakeGeneration ∧
        c.feedback.ParkingBrakesAt parkingBrakeRelease then
      enter c .waitGear
    else c
  | .waitGear =>
    if c.feedback.gearValid = true ∧ c.stateEntryGeneration < c.gearGeneration ∧
        c.feedback.gear = c.desired.gear then
      enter c .waitActuatorModes
    else c
  | .waitActuatorModes => if ActuatorModesConfirmed c then enter c .ready else c
  | .disarmTorque =>
    if AllValid c.feedback.motorTorqueValid ∧
        AllNewerThan c.motorTorqueGeneration c.stateEntryGeneration ∧
        TorqueZero c.feedback.motorTorqueNm then
      enter c .disarmStop
    else c
  | .disarmStop =>
    if c.feedback.speedValid = true ∧ c.stateEntryGeneration < c.speedGeneration ∧
        c.feedback.Stopped then
      enter c .disarmNeutral
    else c
  | .disarmNeutral =>
    if c.feedback.gearValid = true ∧ c.stateEntryGeneration < c.gearGeneration ∧
        c.feedback.gear = neutralGear then
      enter c .disarmParkingBrake
    else c
  | .disarmParkingBrake =>
    if c.stateEntryGeneration < c.parkingBrakeGeneration ∧
        c.feedback.ParkingBrakesAt parkingBrakePark then
      enter c .disarmManual
    else c
  | .disarmManual => if ManualConfirmed c then enter c .disarmed else c

/-- An emergency that finds the controller in an arming state. -/
def ArmingEmergency (c : Controller) : Prop :=
  (c.emergencyStop = true ∨ c.feedback.emergencySwitch ≠ 0) ∧
  (armingEmergencyTarget c.state).isSome

/-- Ready with the handshake reported lost. -/
def HandshakeLost (c : Controller) : Prop :=
  c.state = .ready ∧ c.feedback.handshakeValid = true ∧
  c.feedback.handshakeStatus ≠ intelligentHandshakeStatus

/-- Ready with the gear feedback off the desired gear. -/
def ReadyGearMismatch (c : Controller) : Prop :=
  c.state = .ready ∧ (c.feedback.gearValid = false ∨ c.feedback.gear ≠ c.desired.gear)

instance (c : Controller) : Decidable (ArmingEmergency c) := inferInstanceAs (Decidable (_ ∧ _))
instance (c : Controller) : Decidable (HandshakeLost c) := inferInstanceAs (Decidable (_ ∧ _))
instance (c : Controller) : Decidable (ReadyGearMismatch c) :=
  inferInstanceAs (Decidable (_ ∧ _))

def advanceState (c : Controller) : Controller :=
  if ArmingEmergency c then (beginArmingEmergencyDisarm c).2
  else if HandshakeLost c then transportFault c
  else if ReadyGearMismatch c then enter { c with emergencyStop := true } .waitGear
  else advanceStage c

/-! ## The command batch -/

structure CommandBatch where
  gear : ℤ := noRequest
  handshakeRequest : ℤ := noRequest
  steeringMode : ℤ := noRequest
  parkingBrake : ParkingBrakes ℤ := fun _ => parkingBrakeHold
  motorCommand : Motors ℤ := fun _ => 0
  motorMode : Motors ℤ := fun _ => 0
  steeringAxisMode : SteeringAxes ℤ := fun _ => 0
  brakeMode : Brakes ℤ := fun _ => 0
  motorTorque : Motors ℚ := fun _ => 0
  motorSpeed : Motors ℚ := fun _ => 0
  steeringAngle : SteeringAxes ℚ := fun _ => 0
  steeringSpeed : SteeringAxes ℚ := fun _ => 0
  brakePressure : Brakes ℚ := fun _ => 0
  vehicleSpeedRequestKph : ℚ := 0
  vehicleSpeedRequestValid : Bool := false
  faultReset : Bool := false
  deriving DecidableEq

/-- `automatic_parking_` in a state that already holds by-wire authority. -/
def AutomaticParkingActive (c : Controller) : Prop :=
  c.automaticParking = true ∧ c.state ∈ [.waitGear, .waitActuatorModes, .ready]

/-- `park` of the automatic-parking block. -/
def ParkWanted (c : Controller) : Prop := c.automaticParkRequested = true ∨ c.state ≠ .ready

/-- The brake may only be applied at a fresh standstill without motor torque. -/
def ParkSafe (c : Controller) : Prop :=
  c.parkingStoppedFresh = true ∧ AllValid c.feedback.motorTorqueValid ∧
  TorqueZero c.feedback.motorTorqueNm

/-- Automatic parking withholds traction. -/
def ParkingWithholds (c : Controller) : Prop :=
  AutomaticParkingActive c ∧ (ParkWanted c ∨ ¬ParkingReleased c)

def SafetyBrake (c : Controller) : Prop :=
  c.emergencyStop = true ∨ c.feedback.emergencySwitch ≠ 0 ∨
  c.state ∈ [.fault, .disarmTorque, .disarmStop]

/-- A safety brake in a state whose actuators keep their modes while it acts. -/
def SafetyBrakeHoldsModes (c : Controller) : Prop :=
  SafetyBrake c ∧ c.state ∈ [.ready, .fault, .disarmTorque, .disarmStop]

instance (c : Controller) : Decidable (AutomaticParkingActive c) :=
  inferInstanceAs (Decidable (_ ∧ _))
instance (c : Controller) : Decidable (ParkWanted c) := inferInstanceAs (Decidable (_ ∨ _))
instance (c : Controller) : Decidable (ParkSafe c) := inferInstanceAs (Decidable (_ ∧ _))
instance (c : Controller) : Decidable (ParkingWithholds c) := inferInstanceAs (Decidable (_ ∧ _))
instance (c : Controller) : Decidable (SafetyBrake c) := inferInstanceAs (Decidable (_ ∨ _))
instance (c : Controller) : Decidable (SafetyBrakeHoldsModes c) :=
  inferInstanceAs (Decidable (_ ∧ _))

namespace CommandBatch

def requestAuthority (c : Controller) (b : CommandBatch) : CommandBatch :=
  { b with
    handshakeRequest :=
      if c.state ∉ [.standby, .initial, .disarmed, .disarmManual] ∧ c.handshakeRevoked = false
      then intelligentHandshakeRequest else b.handshakeRequest }

/-- A revoked handshake no longer asks the VCU to release the brake. -/
def releaseParkingBrake (c : Controller) (b : CommandBatch) : CommandBatch :=
  let enabled := c.state ∈ [.waitParkingBrakeReleased, .waitGear, .waitActuatorModes, .ready,
    .disarmTorque, .disarmStop, .disarmNeutral]
  { b with
    parkingBrake :=
      if enabled ∧ c.handshakeRevoked = false then fun _ => parkingBrakeRelease
      else b.parkingBrake
    steeringMode := if enabled then byWireMode else b.steeringMode }

def selectByWire (c : Controller) (b : CommandBatch) : CommandBatch :=
  let enabled := c.state ∈ [.waitGear, .waitActuatorModes, .ready, .disarmTorque, .disarmStop]
  { b with
    gear := if enabled then c.desired.gear else b.gear
    steeringAxisMode := if enabled then fun _ => byWireMode else b.steeringAxisMode
    brakeMode := if enabled then fun _ => byWireMode else b.brakeMode }

def enableMotors (c : Controller) (b : CommandBatch) : CommandBatch :=
  let enabled := c.state ∈ [.waitActuatorModes, .ready, .disarmTorque, .disarmStop]
  { b with
    motorCommand := if enabled then fun _ => motorEnable else b.motorCommand
    motorMode := if enabled then fun _ => motorTorqueMode else b.motorMode }

def followDesired (c : Controller) (b : CommandBatch) : CommandBatch :=
  let enabled := c.state ∈ [.waitGear, .waitActuatorModes, .ready]
  { b with
    steeringAngle := if enabled then c.desired.steeringAngleDeg else b.steeringAngle
    steeringSpeed := if enabled then c.desired.steeringSpeedDegps else b.steeringSpeed
    brakePressure := if enabled then c.desired.brakePressureBar else b.brakePressure }

/-- Local PID control keeps the vehicle-speed request at physical zero, not valid. -/
def drive (c : Controller) (b : CommandBatch) : CommandBatch :=
  { b with
    motorTorque := if c.state = .ready then c.desired.motorTorqueNm else b.motorTorque
    motorSpeed := if c.state = .ready then c.desired.motorSpeedRpm else b.motorSpeed
    vehicleSpeedRequestKph := if c.state = .ready then 0 else b.vehicleSpeedRequestKph
    vehicleSpeedRequestValid := if c.state = .ready then false else b.vehicleSpeedRequestValid
    faultReset := if c.state = .ready then c.desired.faultReset else b.faultReset }

def parkAutomatically (c : Controller) (b : CommandBatch) : CommandBatch :=
  { b with
    parkingBrake :=
      if AutomaticParkingActive c then fun _ =>
        if ParkWanted c then (if ParkSafe c then parkingBrakePark else parkingBrakeHold)
        else parkingBrakeRelease
      else b.parkingBrake
    motorTorque := if ParkingWithholds c then fun _ => 0 else b.motorTorque
    motorSpeed := if ParkingWithholds c then fun _ => 0 else b.motorSpeed
    steeringAngle := if ParkingWithholds c then fun _ => 0 else b.steeringAngle
    brakePressure := if ParkingWithholds c then fun _ => c.parkingBrakeBar else b.brakePressure }

def applySafetyBrake (c : Controller) (b : CommandBatch) : CommandBatch :=
  { b with
    motorTorque := if SafetyBrake c then fun _ => 0 else b.motorTorque
    motorSpeed := if SafetyBrake c then fun _ => 0 else b.motorSpeed
    brakePressure := if SafetyBrake c then c.emergency.brakePressureBar else b.brakePressure
    vehicleSpeedRequestKph := if SafetyBrake c then 0 else b.vehicleSpeedRequestKph
    vehicleSpeedRequestValid := if SafetyBrake c then false else b.vehicleSpeedRequestValid
    motorCommand := if SafetyBrakeHoldsModes c then fun _ => motorEnable else b.motorCommand
    motorMode := if SafetyBrakeHoldsModes c then fun _ => motorTorqueMode else b.motorMode
    steeringAxisMode :=
      if SafetyBrakeHoldsModes c then fun _ => byWireMode else b.steeringAxisMode
    brakeMode := if SafetyBrakeHoldsModes c then fun _ => byWireMode else b.brakeMode
    steeringAngle :=
      if SafetyBrakeHoldsModes c then c.desired.steeringAngleDeg else b.steeringAngle
    steeringSpeed :=
      if SafetyBrakeHoldsModes c then c.desired.steeringSpeedDegps else b.steeringSpeed }

/-- The last block: the stages of the shutdown after the vehicle has stopped. -/
def disarmStage (c : Controller) (b : CommandBatch) : CommandBatch :=
  let neutral := c.state = .disarmNeutral
  let parked := c.state ∈ [.disarmParkingBrake, .disarmManual]
  { b with
    gear := if neutral ∨ parked then neutralGear else b.gear
    handshakeRequest := if c.state = .disarmManual then noRequest else b.handshakeRequest
    parkingBrake := if parked then fun _ => parkingBrakePark else b.parkingBrake
    motorCommand := if neutral then fun _ => motorEnable else b.motorCommand
    motorMode := if neutral then fun _ => motorTorqueMode else b.motorMode
    steeringAxisMode := if neutral then fun _ => byWireMode else b.steeringAxisMode
    brakeMode := if neutral then fun _ => byWireMode else b.brakeMode
    brakePressure := if neutral then c.emergency.brakePressureBar else b.brakePressure }

def frames (b : CommandBatch) : List CanFrame :=
  (List.finRange motorCount).map (fun index =>
    makeMotorFrame index (b.motorCommand index) (b.motorMode index) (b.motorTorque index)
      (b.motorSpeed index)) ++
  [ makeSteeringFrame Ids.aduEps01 [0, 1] b.steeringAxisMode b.steeringAngle b.steeringSpeed,
    makeSteeringFrame Ids.aduEps03 [2, 3] b.steeringAxisMode b.steeringAngle b.steeringSpeed,
    makeBrakeFrame Ids.aduEhb01 [0, 1, 2, 3] b.brakeMode b.brakePressure,
    makeBrakeFrame Ids.aduEhb02 [4, 5, 6, 7] b.brakeMode b.brakePressure,
    makeEpbFrame b.parkingBrake b.steeringMode,
    makeShakeFrame b.gear b.handshakeRequest b.faultReset,
    { id := Ids.aduBody },
    makeVehicleSpeedFrame b.vehicleSpeedRequestKph b.vehicleSpeedRequestValid ]

end CommandBatch

open CommandBatch in
/-- The batch `tick` builds from the state it advanced to. -/
def commandBatch (c : Controller) : CommandBatch :=
  disarmStage c (applySafetyBrake c (parkAutomatically c (drive c (followDesired c
    (enableMotors c (selectByWire c (releaseParkingBrake c (requestAuthority c {}))))))))

def tick (c : Controller) : CommandBatch × Controller :=
  let advanced := advanceState c
  (commandBatch advanced, advanced)

/-! ## The controller as a machine -/

inductive Event where
  | reset
  | setCommand (command : Command)
  | setEmergencyCommand (command : Command)
  | setAutomaticParking (enabled requested stoppedFresh : Bool) (brakeBar : ℚ)
  | emergencyStop
  | clearEmergencyStop
  | requestParallelHandshake
  | requestDisarm
  | transportFault
  | ingest (frame : CanFrame)
  | tick
  deriving DecidableEq

/-- What a member function hands back to its caller. -/
inductive Reply where
  | done
  | accepted (result : Bool)
  | batch (transmitted : CommandBatch)
  deriving DecidableEq

def respond (c : Controller) : Event → Reply × Controller
  | .reset => (.done, Vcu.reset)
  | .setCommand command => let r := setCommand c command; (.accepted r.1, r.2)
  | .setEmergencyCommand command => let r := setEmergencyCommand c command; (.accepted r.1, r.2)
  | .setAutomaticParking enabled requested stoppedFresh brakeBar =>
    (.done, setAutomaticParking c enabled requested stoppedFresh brakeBar)
  | .emergencyStop => (.done, emergencyStop c)
  | .clearEmergencyStop => (.done, clearEmergencyStop c)
  | .requestParallelHandshake => let r := requestParallelHandshake c; (.accepted r.1, r.2)
  | .requestDisarm => (.done, requestDisarm c)
  | .transportFault => (.done, transportFault c)
  | .ingest frame => let r := ingest c frame; (.accepted r.1, r.2)
  | .tick => let r := tick c; (.batch r.1, r.2)

def machine : Machine Controller Event Reply := ⟨reset, respond⟩

end MineTeleop.Vcu
