import MineTeleop.Vcu.Protocol
import MineTeleop.Library.Runs

/-!
# The parallel-control state machine of `vcu.cpp`

`Controller` is `ParallelController` with its private fields.  A member function that returns
`bool` gives the answer with the next controller; `tick` gives the batch it transmits, as the
physical values the source passes to its frame builders (`CommandBatch.frames` encodes them).

A double is an exact rational.  A NaN or infinite field fails `command_valid` just as one out of
range does, so it is represented by a value out of range.  Generations count received frames and
are natural numbers.
-/

namespace MineTeleop.Vcu

/-! ## Data -/

structure Command where
  gear : ℤ := 1
  vehicleSpeedRequestKph : ℚ := 0
  vehicleSpeedRequestValid : Bool := false
  motorTorqueNm : Motors ℚ := fun _ => 0
  motorSpeedRpm : Motors ℚ := fun _ => 0
  steeringAngleDeg : SteeringAxes ℚ := fun _ => 0
  steeringSpeedDegps : SteeringAxes ℚ := fun _ => 0
  brakePressureBar : Brakes ℚ := fun _ => 0
  faultReset : Bool := false
  deriving DecidableEq

structure Feedback where
  handshakeStatus : ℤ := 0
  handshakeValid : Bool := false
  gear : ℤ := 0
  gearValid : Bool := false
  emergencySwitch : ℤ := 0
  vmcFaultCode : ℤ := 0
  vmcFaultCodeValid : Bool := false
  driverGearRequest : ℤ := 0
  driverGearRequestValid : Bool := false
  parkingBrakeSwitch : ℤ := 0
  parkingBrakeSwitchValid : Bool := false
  brakePedalSwitch : ℤ := 0
  brakePedalSwitchValid : Bool := false
  speedMps : ℚ := 0
  speedValid : Bool := false
  parkingBrakeStatus : ParkingBrakes ℤ := fun _ => 0
  parkingBrakeValid : ParkingBrakes Bool := fun _ => false
  motorMode : Motors ℤ := fun _ => 0
  motorModeValid : Motors Bool := fun _ => false
  motorTorqueNm : Motors ℚ := fun _ => 0
  motorTorqueValid : Motors Bool := fun _ => false
  motorSpeedRpm : Motors ℚ := fun _ => 0
  motorSpeedValid : Motors Bool := fun _ => false
  steeringMode : SteeringAxes ℤ := fun _ => 0
  steeringValid : SteeringAxes Bool := fun _ => false
  steeringAngleDeg : SteeringAxes ℚ := fun _ => 0
  brakeMode : Brakes ℤ := fun _ => 0
  brakeValid : Brakes Bool := fun _ => false
  brakePressureBar : Brakes ℚ := fun _ => 0

inductive State where
  | standby
  | initial
  | waitParallelHandshake
  | waitParkingBrakeReleased
  | waitGear
  | waitActuatorModes
  | ready
  | disarmTorque
  | disarmStop
  | disarmNeutral
  | disarmParkingBrake
  | disarmManual
  | disarmed
  | fault
  deriving DecidableEq, Repr

def emergencyBrakeBar : ℚ := 4095 / 10

structure Controller where
  parkingReleaseGeneration : ℕ := 0
  automaticParking : Bool := false
  automaticParkRequested : Bool := true
  parkingStoppedFresh : Bool := false
  parkingBrakeBar : ℚ := 0
  desired : Command := {}
  emergency : Command :=
    { gear := neutralGear, brakePressureBar := fun _ => emergencyBrakeBar }
  feedback : Feedback := {}
  state : State := .standby
  initialFrameCount : ℕ := 0
  emergencyStop : Bool := false
  physicalEmergencyLatched : Bool := false
  handshakeRevoked : Bool := false
  revokedHandshakeStatus : ℤ := 0
  receiveGeneration : ℕ := 0
  stateEntryGeneration : ℕ := 0
  handshakeGeneration : ℕ := 0
  gearGeneration : ℕ := 0
  speedGeneration : ℕ := 0
  parkingBrakeGeneration : ℕ := 0
  motorModeGeneration : Motors ℕ := fun _ => 0
  motorTorqueGeneration : Motors ℕ := fun _ => 0
  steeringGeneration : SteeringAxes ℕ := fun _ => 0
  brakeGeneration : SteeringAxes ℕ := fun _ => 0

/-- The constructor and `reset` leave the same fields. -/
def reset : Controller := {}

/-! ## Checks on feedback and commands -/

def AllEqualValid {n : ℕ} {α : Type} (values : Fin n → α) (valid : Fin n → Bool)
    (expected : α) : Prop :=
  ∀ i, valid i = true ∧ values i = expected

def AllValid {n : ℕ} (valid : Fin n → Bool) : Prop := ∀ i, valid i = true

def AllNewerThan {n : ℕ} (generations : Fin n → ℕ) (generation : ℕ) : Prop :=
  ∀ i, generation < generations i

def AllInRange {n : ℕ} (values : Fin n → ℚ) (minimum maximum : ℚ) : Prop :=
  ∀ i, minimum ≤ values i ∧ values i ≤ maximum

def TorqueZero (torqueNm : Motors ℚ) : Prop := ∀ i, |torqueNm i| ≤ torqueZeroToleranceNm

instance {n : ℕ} {α : Type} [DecidableEq α] (values : Fin n → α) (valid : Fin n → Bool)
    (expected : α) : Decidable (AllEqualValid values valid expected) :=
  inferInstanceAs (Decidable (∀ _, _))

instance {n : ℕ} (valid : Fin n → Bool) : Decidable (AllValid valid) :=
  inferInstanceAs (Decidable (∀ _, _))

instance {n : ℕ} (generations : Fin n → ℕ) (generation : ℕ) :
    Decidable (AllNewerThan generations generation) :=
  inferInstanceAs (Decidable (∀ _, _))

instance {n : ℕ} (values : Fin n → ℚ) (minimum maximum : ℚ) :
    Decidable (AllInRange values minimum maximum) :=
  inferInstanceAs (Decidable (∀ _, _))

instance (torqueNm : Motors ℚ) : Decidable (TorqueZero torqueNm) :=
  inferInstanceAs (Decidable (∀ _, _))

def CommandValid (command : Command) : Prop :=
  1 ≤ command.gear ∧ command.gear ≤ 3 ∧
  0 ≤ command.vehicleSpeedRequestKph ∧ command.vehicleSpeedRequestKph ≤ 255 ∧
  AllInRange command.motorTorqueNm motorTorqueMinimumNm motorTorqueMaximumNm ∧
  AllInRange command.motorSpeedRpm (-8000) 8383 ∧
  AllInRange command.steeringAngleDeg (-30) 30 ∧
  AllInRange command.steeringSpeedDegps 0 255 ∧
  AllInRange command.brakePressureBar 0 emergencyBrakeBar

instance (command : Command) : Decidable (CommandValid command) :=
  inferInstanceAs (Decidable (_ ∧ _))

namespace Feedback

def Stopped (f : Feedback) : Prop := |f.speedMps| ≤ stoppedSpeedToleranceMps

instance (f : Feedback) : Decidable f.Stopped := inferInstanceAs (Decidable (_ ≤ _))

def ParkingBrakesAt (f : Feedback) (status : ℤ) : Prop :=
  AllEqualValid f.parkingBrakeStatus f.parkingBrakeValid status

instance (f : Feedback) (status : ℤ) : Decidable (f.ParkingBrakesAt status) :=
  inferInstanceAs (Decidable (AllEqualValid _ _ _))

end Feedback

/-! ## Setters -/

def enter (c : Controller) (state : State) : Controller :=
  { c with state := state, stateEntryGeneration := c.receiveGeneration }

def setAutomaticParking (c : Controller) (enabled requested stoppedFresh : Bool)
    (brakeBar : ℚ) : Controller :=
  { c with
    parkingReleaseGeneration :=
      if enabled && !requested && (!c.automaticParking || c.automaticParkRequested) then
        c.receiveGeneration
      else c.parkingReleaseGeneration
    automaticParking := enabled
    automaticParkRequested := requested
    parkingStoppedFresh := stoppedFresh
    parkingBrakeBar := brakeBar }

def ParkingReleased (c : Controller) : Prop :=
  (c.automaticParking = false ∨
    (c.automaticParkRequested = false ∧ c.parkingReleaseGeneration < c.parkingBrakeGeneration)) ∧
  c.feedback.ParkingBrakesAt parkingBrakeRelease

instance (c : Controller) : Decidable (ParkingReleased c) := inferInstanceAs (Decidable (_ ∧ _))

/-- The state an emergency stop leads to while arming, if the state is an arming one. -/
def armingEmergencyTarget : State → Option State
  | .initial => some .disarmed
  | .waitParallelHandshake => some .disarmManual
  | .waitParkingBrakeReleased => some .disarmTorque
  | .waitGear => some .disarmTorque
  | .waitActuatorModes => some .disarmTorque
  | _ => none

def beginArmingEmergencyDisarm (c : Controller) : Bool × Controller :=
  match armingEmergencyTarget c.state with
  | some target => (true, enter c target)
  | none => (false, c)

def emergencyStop (c : Controller) : Controller :=
  (beginArmingEmergencyDisarm { c with emergencyStop := true }).2

def clearEmergencyStop (c : Controller) : Controller :=
  if !c.physicalEmergencyLatched && !c.handshakeRevoked then { c with emergencyStop := false }
  else c

/-- The traction part of a command set to zero. -/
def withoutTraction (command : Command) : Command :=
  { command with
    motorTorqueNm := fun _ => 0
    motorSpeedRpm := fun _ => 0
    vehicleSpeedRequestKph := 0
    vehicleSpeedRequestValid := false }

def setCommand (c : Controller) (command : Command) : Bool × Controller :=
  if ¬CommandValid command ∨
      c.state ∈ [.disarmTorque, .disarmStop, .disarmNeutral, .disarmParkingBrake,
        .disarmManual, .fault] then
    (false, c)
  else if c.desired.gear ≠ command.gear ∧ (command.gear = 2 ∨ command.gear = 3) ∧
      (c.feedback.speedValid = false ∨ c.feedback.gearValid = false ∨ ¬c.feedback.Stopped) then
    -- A drive gear is only taken at a measured standstill; the old torque goes at once.
    (false, emergencyStop { c with desired := withoutTraction c.desired })
  else
    let accepted := { c with desired := command }
    (true,
      if c.desired.gear ≠ command.gear ∧ c.state = .ready then enter accepted .waitGear
      else accepted)

def setEmergencyCommand (c : Controller) (command : Command) : Bool × Controller :=
  if ¬CommandValid command ∨ command.gear ≠ neutralGear then (false, c)
  else
    (true,
      { c with
        emergency := { command with motorTorqueNm := fun _ => 0, motorSpeedRpm := fun _ => 0 } })

def ParkingReady (c : Controller) : Prop :=
  c.feedback.gearValid = true ∧ c.feedback.gear = neutralGear ∧
  c.feedback.emergencySwitch = 0 ∧
  c.feedback.driverGearRequestValid = true ∧
  c.feedback.driverGearRequest = neutralGearRequest ∧
  c.feedback.handshakeValid = true ∧ c.feedback.handshakeStatus = manualHandshakeStatus ∧
  c.feedback.speedValid = true ∧ c.feedback.Stopped ∧
  c.feedback.ParkingBrakesAt parkingBrakePark

instance (c : Controller) : Decidable (ParkingReady c) := inferInstanceAs (Decidable (_ ∧ _))

def requestParallelHandshake (c : Controller) : Bool × Controller :=
  if (c.state ≠ .standby ∧ c.state ≠ .disarmed) ∨ ¬ParkingReady c then (false, c)
  else
    (true, enter
      { c with
        desired := { gear := neutralGear }
        physicalEmergencyLatched := false
        emergencyStop := false
        handshakeRevoked := false
        revokedHandshakeStatus := 0
        initialFrameCount := 0 }
      .initial)

def requestDisarm (c : Controller) : Controller :=
  if c.state = .standby ∨ c.state = .disarmed then c
  else
    let stopped := { c with emergencyStop := true }
    if c.state = .initial then enter stopped .disarmed
    else if c.state = .waitParallelHandshake then enter stopped .disarmManual
    else if c.state ∈ [.disarmTorque, .disarmStop, .disarmNeutral, .disarmParkingBrake,
        .disarmManual, .disarmed] then stopped
    else enter stopped .disarmTorque

def transportFault (c : Controller) : Controller := enter { c with emergencyStop := true } .fault

/-! ## Received frames -/

def receive (c : Controller) : Controller := { c with receiveGeneration := c.receiveGeneration + 1 }

def recordHandshake (c : Controller) (frame : CanFrame) : Controller :=
  { receive c with
    handshakeGeneration := c.receiveGeneration + 1
    feedback :=
      { c.feedback with handshakeStatus := signalInt frame 8 8, handshakeValid := true } }

/-- The part of the handshake branch that latches a return to the manual state at once, so that
a state 5 frame later in the same batch cannot erase it. -/
def latchRevocation (c : Controller) : Controller :=
  if c.state ∈ [.waitParkingBrakeReleased, .waitGear, .waitActuatorModes, .ready] ∧
      c.feedback.handshakeStatus = manualHandshakeStatus ∧ c.handshakeRevoked = false then
    let revoked :=
      { c with
        handshakeRevoked := true
        revokedHandshakeStatus := c.feedback.handshakeStatus
        emergencyStop := true }
    if c.state = .ready then transportFault revoked else enter revoked .disarmTorque
  else c

def recordVehicleStatus (c : Controller) (frame : CanFrame) : Controller :=
  { receive c with
    gearGeneration := c.receiveGeneration + 1
    feedback :=
      { c.feedback with
        emergencySwitch := signalInt frame 0 2
        gear := signalInt frame 2 2
        gearValid := true
        vmcFaultCode := signalInt frame 16 8
        vmcFaultCodeValid := true } }

/-- The part of the vehicle-status branch that latches the physical switch at once, so that a
short pulse cannot disappear before the next tick. -/
def latchPhysicalEmergency (c : Controller) : Controller :=
  if c.feedback.emergencySwitch ≠ 0 then
    let latched := { c with physicalEmergencyLatched := true, emergencyStop := true }
    if c.state = .ready then enter latched .disarmTorque
    else (beginArmingEmergencyDisarm latched).2
  else c

def recordVehicleSpeed (c : Controller) (frame : CanFrame) : Controller :=
  { receive c with
    speedGeneration := c.receiveGeneration + 1
    feedback :=
      { c.feedback with
        speedMps := decodePhysical (extractSignal frame 0 16) (1 / 10) (-500) / (36 / 10)
        speedValid := true } }

def recordDriverIntention (c : Controller) (frame : CanFrame) : Controller :=
  { receive c with
    feedback :=
      { c.feedback with
        driverGearRequest := signalInt frame 57 3
        driverGearRequestValid := true } }

def recordDriverIntention2 (c : Controller) (frame : CanFrame) : Controller :=
  { receive c with
    feedback :=
      { c.feedback with
        brakePedalSwitch := signalInt frame 22 2
        brakePedalSwitchValid := true
        parkingBrakeSwitch := signalInt frame 24 2
        parkingBrakeSwitchValid := true } }

def recordParkingBrake (c : Controller) (frame : CanFrame) : Controller :=
  { receive c with
    parkingBrakeGeneration := c.receiveGeneration + 1
    feedback :=
      { c.feedback with
        parkingBrakeStatus := fun index => signalInt frame (index.val * 16) 2
        parkingBrakeValid := fun _ => true } }

def recordMotorStatus01 (c : Controller) (frame : CanFrame) (index : Fin motorCount) :
    Controller :=
  { receive c with
    motorTorqueGeneration :=
      Function.update c.motorTorqueGeneration index (c.receiveGeneration + 1)
    feedback :=
      { c.feedback with
        motorSpeedRpm := Function.update c.feedback.motorSpeedRpm index
          (decodePhysical (extractSignal frame 0 14) 1 (-8000))
        motorSpeedValid := Function.update c.feedback.motorSpeedValid index
          (extractSignal frame 15 1 == 1)
        motorTorqueNm := Function.update c.feedback.motorTorqueNm index
          (decodePhysical (extractSignal frame 16 motorTorqueBits)
            motorTorqueResolutionNm motorTorqueMinimumNm)
        motorTorqueValid := Function.update c.feedback.motorTorqueValid index true } }

def recordMotorStatus02 (c : Controller) (frame : CanFrame) (index : Fin motorCount) :
    Controller :=
  { receive c with
    motorModeGeneration := Function.update c.motorModeGeneration index (c.receiveGeneration + 1)
    feedback :=
      { c.feedback with
        motorMode := Function.update c.feedback.motorMode index (signalInt frame 4 4)
        motorModeValid := Function.update c.feedback.motorModeValid index true } }

def recordSteeringStatus (c : Controller) (frame : CanFrame) (index : Fin steeringAxisCount) :
    Controller :=
  { receive c with
    steeringGeneration := Function.update c.steeringGeneration index (c.receiveGeneration + 1)
    feedback :=
      { c.feedback with
        steeringMode := Function.update c.feedback.steeringMode index (signalInt frame 0 8)
        steeringAngleDeg := Function.update c.feedback.steeringAngleDeg index
          (decodePhysical (extractSignal frame 8 16) (1 / 10) (-1575))
        steeringValid := Function.update c.feedback.steeringValid index true } }

/-- One brake frame reports the two brakes `2 * index` and `2 * index + 1`. -/
def recordBrakeStatus (c : Controller) (frame : CanFrame) (index : Fin steeringAxisCount) :
    Controller :=
  { receive c with
    brakeGeneration := Function.update c.brakeGeneration index (c.receiveGeneration + 1)
    feedback :=
      { c.feedback with
        brakeMode := fun brake =>
          if brake.val / 2 = index.val then signalInt frame (brake.val % 2 * 32) 4
          else c.feedback.brakeMode brake
        brakePressureBar := fun brake =>
          if brake.val / 2 = index.val then
            decodePhysical (extractSignal frame (brake.val % 2 * 32 + 4) 12) (1 / 10) 0
          else c.feedback.brakePressureBar brake
        brakeValid := fun brake =>
          if brake.val / 2 = index.val then true else c.feedback.brakeValid brake } }

/-- The lookups in the four tables of actuator ids, in the source's order. -/
def ingestActuator (c : Controller) (frame : CanFrame) : Bool × Controller :=
  match findId frame.id Ids.motorStatus01 with
  | some index => (true, recordMotorStatus01 c frame index)
  | none =>
    match findId frame.id Ids.motorStatus02 with
    | some index => (true, recordMotorStatus02 c frame index)
    | none =>
      match findId frame.id Ids.steeringStatus with
      | some index => (true, recordSteeringStatus c frame index)
      | none =>
        match findId frame.id Ids.brakeStatus with
        | some index => (true, recordBrakeStatus c frame index)
        | none => (false, c)

def ingest (c : Controller) (frame : CanFrame) : Bool × Controller :=
  if frame.extended = false ∨ frame.dlc < 8 then (false, c)
  else if frame.id = Ids.wvcuHandshake then (true, latchRevocation (recordHandshake c frame))
  else if frame.id = Ids.wvcuVehicleStatus then
    (true, latchPhysicalEmergency (recordVehicleStatus c frame))
  else if frame.id = Ids.wvcuVehicleSpeed then (true, recordVehicleSpeed c frame)
  else if frame.id = Ids.wvcuDriverIntention then (true, recordDriverIntention c frame)
  else if frame.id = Ids.wvcuDriverIntention2 then (true, recordDriverIntention2 c frame)
  else if frame.id = Ids.wvcuParkingBrake then (true, recordParkingBrake c frame)
  else ingestActuator c frame

/-! ## Operator idle timer -/

/-- `OperatorIdleParking`: the operator-input timer that automatic parking waits for. -/
structure OperatorIdleParking where
  seen : Bool := false
  active : Bool := false
  lastActiveMs : ℤ := 0

namespace OperatorIdleParking

def observe (o : OperatorIdleParking) (active : Bool) (nowMs : ℤ) : OperatorIdleParking :=
  if active then { seen := true, active := true, lastActiveMs := nowMs }
  else { o with active := false }

/-- A held key survives the interval between samples even with a timeout of zero. -/
def Expired (o : OperatorIdleParking) (nowMs timeoutMs : ℤ) : Prop :=
  o.seen = false ∨
  (¬(o.active = true ∧ max 0 (nowMs - o.lastActiveMs) < 200) ∧
    timeoutMs ≤ max 0 (nowMs - o.lastActiveMs))

instance (o : OperatorIdleParking) (nowMs timeoutMs : ℤ) : Decidable (o.Expired nowMs timeoutMs) :=
  inferInstanceAs (Decidable (_ ∨ _))

end OperatorIdleParking

end MineTeleop.Vcu
