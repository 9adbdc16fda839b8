import MineTeleop.Bridge.Control

/-!
# The io loop of the chassis bridge

Received frames, the control watchdog, the command that is generated from the latest intent, and
one iteration of the 20 ms loop.  `update_command_from_intent_locked` is split into its stages;
what it reads into local constants at the start is the `IntentView`.
-/

namespace MineTeleop.Bridge

open Vcu (CanFrame Command CommandBatch)

/-! ## Feedback -/

/-- The largest of the valid values, from zero up. -/
def maxValid {n : ℕ} (values : Fin n → ℚ) (valid : Fin n → Bool) : ℚ :=
  (List.finRange n).foldl
    (fun largest index => if valid index then max largest (values index) else largest) 0

def updateFeedback (b : BridgeRuntime) : BridgeRuntime :=
  let feedback := b.controller.feedback
  let estop := b.softwareEstop || decide (feedback.emergencySwitch ≠ 0)
  { b with
    telemetry :=
      { speedMps := if feedback.speedValid then feedback.speedMps else 0
        gear := if feedback.gearValid then feedback.gear else 1
        steeringFeedback :=
          if feedback.steeringValid 0 then
            clampValue (feedback.steeringAngleDeg 0 / 30) (-1) 1
          else 0
        throttleFeedback :=
          clampValue (maxValid feedback.motorTorqueNm feedback.motorTorqueValid /
            maxDbcMotorTorqueNm) 0 1
        brakeFeedback :=
          clampValue (maxValid feedback.brakePressureBar feedback.brakeValid /
            maxEmergencyBrakePressureBar) 0 1
        estop := estop
        stopSource := if estop then b.stopSource else .none
        stopReason := if estop then b.stopReason else .none
        stopSequence := b.stopSequence } }

/-- The part of `ingest_locked` behind an accepted frame. -/
def recordFrame (b : BridgeRuntime) (now : ℤ) (frame : CanFrame) : BridgeRuntime :=
  let b :=
    if b.controller.physicalEmergencyLatched then
      latchStopProvenance b .physicalEmergency .physicalEmergencySwitch
    else b
  updateFeedback { b with lastSeen := Function.update b.lastSeen frame.id (some now) }

def ingest (b : BridgeRuntime) (now : ℤ) (frame : CanFrame) : BridgeRuntime :=
  let (accepted, controller) := Vcu.ingest b.controller frame
  if accepted then recordFrame { b with controller := controller } now frame else b

/-- A negative result of the socket's `receive`. -/
def receiveFailure (b : BridgeRuntime) (receiveResult : ℤ) : BridgeRuntime :=
  let b := latchStopProvenance { b with ioError := receiveResult } .softwareFault .canReceiveFailed
  { b with controller := Vcu.transportFault b.controller, softwareEstop := true }

/-! ## Watchdogs -/

def RetainedFeedbackTimeout (b : BridgeRuntime) (now : ℤ) : Prop :=
  b.feedbackWatchdogArmed = true ∧ speedSafetyActiveState b.controller.state = true ∧
  feedbackFresh b now = false

def FirstArmingFeedbackTimeout (b : BridgeRuntime) (now : ℤ) : Prop :=
  b.feedbackWatchdogArmed = false ∧ b.armingFeedbackDeadlineValid = true ∧
  b.controller.state = b.armingFeedbackState ∧
  feedbackTimeoutNs ≤ now - b.armingFeedbackStateEntry ∧
  armingFeedbackFresh b b.controller.state now = false

instance (b : BridgeRuntime) (now : ℤ) : Decidable (RetainedFeedbackTimeout b now) :=
  inferInstanceAs (Decidable (_ ∧ _))
instance (b : BridgeRuntime) (now : ℤ) : Decidable (FirstArmingFeedbackTimeout b now) :=
  inferInstanceAs (Decidable (_ ∧ _))

/-- The feedback watchdog of the io loop. -/
def checkFeedbackTimeout (b : BridgeRuntime) (now : ℤ) : BridgeRuntime :=
  if RetainedFeedbackTimeout b now ∨ FirstArmingFeedbackTimeout b now then
    let b := latchStopProvenance
      { b with
        ioError := -eTimedOut
        recoverableArmingTimeout := decide (FirstArmingFeedbackTimeout b now) }
      .watchdog .feedbackTimeout
    withdrawLatestTraction
      { b with controller := Vcu.transportFault b.controller, softwareEstop := true }
  else b

/-- The later of the instant the session became ready and the last stored intent. -/
def watchdogReference (b : BridgeRuntime) : Option ℤ :=
  let ready := if b.readySinceValid then some b.readySince else none
  if b.lastSuccessfulApplyValid then
    match ready with
    | none => some b.lastSuccessfulApply
    | some since => some (if since < b.lastSuccessfulApply then b.lastSuccessfulApply else since)
  else ready

def WatchdogExpired (b : BridgeRuntime) (now : ℤ) : Prop :=
  ControlWatchdogExpired
    (b.sessionReadyLatched && speedSafetyActiveState b.controller.state)
    (watchdogReference b).isSome b.controlWatchdogLatched
    (max 0 (((watchdogReference b).map fun reference => milliseconds (now - reference)).getD 0))
    b.controlTimeoutMs

instance (b : BridgeRuntime) (now : ℤ) : Decidable (WatchdogExpired b now) :=
  inferInstanceAs (Decidable (ControlWatchdogExpired _ _ _ _ _))

def checkControlWatchdog (b : BridgeRuntime) (now : ℤ) : BridgeRuntime :=
  if WatchdogExpired b now then
    let b := latchStopProvenance b .watchdog .controlApplyTimeout
    withdrawLatestTraction
      { b with
        controller := Vcu.emergencyStop b.controller
        softwareEstop := true
        controlWatchdogLatched := true
        clearSoftStopRequested := false }
  else b

/-! ## The command from the latest intent -/

structure IntentView where
  intent : ControlIntent
  speedFresh : Bool
  actualGearMatches : Bool
  measuredSpeedMagnitudeMps : ℚ
  controllerState : Vcu.State
  physicalEmergencyLatched : Bool

def intentView (b : BridgeRuntime) (now : ℤ) : IntentView :=
  let intent : ControlIntent := if b.latestIntentValid then b.latestIntent else {}
  { intent := intent
    speedFresh := speedFeedbackFresh b now
    actualGearMatches :=
      gearFeedbackFresh b now && decide (b.controller.feedback.gear = intent.gear)
    measuredSpeedMagnitudeMps := speedMagnitudeMps b.controller.feedback.speedMps
    controllerState := b.controller.state
    physicalEmergencyLatched := b.controller.physicalEmergencyLatched }

/-- The branch behind a latched ChassisControl fault. -/
def holdChassisControlFault (b : BridgeRuntime) : BridgeRuntime :=
  resetDirectTraction (resetSpeedPid
    { b with
      controller :=
        if isDisarming b.controller.state = false ∧ b.controller.state ≠ .disarmed then
          Vcu.transportFault b.controller
        else b.controller
      softwareEstop := true })

def reportPhysicalEmergency (b : BridgeRuntime) (v : IntentView) : BridgeRuntime :=
  if v.physicalEmergencyLatched then
    let b := latchStopProvenance b .physicalEmergency .physicalEmergencySwitch
    let b := resetSpeedPid { b with clearSoftStopRequested := false, softwareEstop := true }
    if b.physicalEmergencyReported then b
    else withdrawLatestTraction { b with physicalEmergencyReported := true }
  else b

/-- What both overspeed stages do once they trip. -/
def latchHardOverspeed (b : BridgeRuntime) (reason : StopReason) : BridgeRuntime :=
  let b := latchStopProvenance b .softwareFault reason
  resetSpeedPid
    { b with
      hardOverspeedLatched := true
      controller := Vcu.emergencyStop b.controller
      softwareEstop := true }

def ArmingMotion (b : BridgeRuntime) (v : IntentView) : Prop :=
  v.physicalEmergencyLatched = false ∧ b.hardOverspeedLatched = false ∧
  b.speedControl.enabled = true ∧ stationaryArmingState v.controllerState = true ∧
  v.speedFresh = true ∧ 1 / 10 < |b.controller.feedback.speedMps|

def SpeedAboveCeiling (b : BridgeRuntime) (v : IntentView) : Prop :=
  v.physicalEmergencyLatched = false ∧ b.hardOverspeedLatched = false ∧
  b.speedControl.enabled = true ∧ speedSafetyActiveState v.controllerState = true ∧
  v.speedFresh = true ∧
  HardOverspeed b.speedControl.hardSpeedLimitMps b.controller.feedback.speedMps
    b.speedControl.hardOverspeedMarginMps

instance (b : BridgeRuntime) (v : IntentView) : Decidable (ArmingMotion b v) :=
  inferInstanceAs (Decidable (_ ∧ _))
instance (b : BridgeRuntime) (v : IntentView) : Decidable (SpeedAboveCeiling b v) :=
  inferInstanceAs (Decidable (_ ∧ _))

def checkArmingMotion (b : BridgeRuntime) (v : IntentView) : BridgeRuntime :=
  if ArmingMotion b v then latchHardOverspeed b .armingMotion else b

def checkHardOverspeed (b : BridgeRuntime) (v : IntentView) : BridgeRuntime :=
  if SpeedAboveCeiling b v then latchHardOverspeed b .hardOverspeed else b

/-- A fresh intent may end a soft stop: Ready, fresh speed, the gear confirmed, no hard latch. -/
def SoftStopClears (b : BridgeRuntime) (v : IntentView) : Prop :=
  b.clearSoftStopRequested = true ∧ v.physicalEmergencyLatched = false ∧
  b.hardOverspeedLatched = false ∧ b.controller.state = .ready ∧ v.speedFresh = true ∧
  v.actualGearMatches = true

instance (b : BridgeRuntime) (v : IntentView) : Decidable (SoftStopClears b v) :=
  inferInstanceAs (Decidable (_ ∧ _))

def clearSoftStop (b : BridgeRuntime) (v : IntentView) : BridgeRuntime :=
  if SoftStopClears b v then
    clearStopProvenance
      { b with
        controller := Vcu.clearEmergencyStop b.controller
        softwareEstop := false
        controlWatchdogLatched := false
        clearSoftStopRequested := false }
  else b

/-- `idle_park`: no profile, or an operator who has let go for the profile's delay. -/
def IdlePark (b : BridgeRuntime) (now : ℤ) : Prop :=
  b.runtimeControl.active = false ∨
  b.operatorIdle.Expired (milliseconds now) b.runtimeControl.parkingIdleTimeoutMs

instance (b : BridgeRuntime) (now : ℤ) : Decidable (IdlePark b now) :=
  inferInstanceAs (Decidable (_ ∨ _))

def updateAutomaticParking (b : BridgeRuntime) (v : IntentView) (now : ℤ) : BridgeRuntime :=
  { b with
    controller := Vcu.setAutomaticParking b.controller (automaticParkingEnabled b)
      (decide (IdlePark b now))
      (v.speedFresh && feedbackFresh b now && decide (v.measuredSpeedMagnitudeMps ≤ 1 / 10))
      (automaticParkingPressureBar b) }

def ParkingAllowsTraction (b : BridgeRuntime) (now : ℤ) : Prop :=
  automaticParkingEnabled b = false ∨
  (¬IdlePark b now ∧ feedbackFresh b now = true ∧ Vcu.ParkingReleased b.controller)

/-- `traction_pid_active`. -/
def TractionPidActive (b : BridgeRuntime) (v : IntentView) (now : ℤ) : Prop :=
  b.speedControl.enabled = true ∧ b.runtimeControl.active = true ∧
  v.physicalEmergencyLatched = false ∧ b.hardOverspeedLatched = false ∧
  b.controlWatchdogLatched = false ∧ b.softwareEstop = false ∧
  ParkingAllowsTraction b now ∧ 0 < v.intent.normalizedLongitudinal ∧
  (v.intent.gear = 2 ∨ v.intent.gear = 3) ∧ b.controller.state = .ready ∧
  v.speedFresh = true ∧ v.actualGearMatches = true ∧ 0 < v.intent.targetSpeedMps

instance (b : BridgeRuntime) (now : ℤ) : Decidable (ParkingAllowsTraction b now) :=
  inferInstanceAs (Decidable (_ ∨ _))
instance (b : BridgeRuntime) (v : IntentView) (now : ℤ) : Decidable (TractionPidActive b v now) :=
  inferInstanceAs (Decidable (_ ∧ _))

/-- The session limit under the configured full scale. -/
def sessionTorqueLimitNm (b : BridgeRuntime) : ℚ :=
  min b.runtimeControl.maxMotorTorqueNm b.fullScaleMotorTorqueNm

/-- The share of the torque limit that the rise rate lets the next tick reach. -/
def reachableNormalizedOutput (b : BridgeRuntime) (dtSeconds : ℚ) : ℚ :=
  let limit := boundedMotorTorqueNm 1 (sessionTorqueLimitNm b)
  let reachable := riseLimitedMotorTorqueNm b.lastTractionTorqueMagnitudeNm limit
    b.speedControl.motorTorqueRiseRateNmPerS dtSeconds
  if 0 < limit then clampValue (reachable / limit) 0 1 else 0

/-- The references that a change of gear or setpoint restarts. -/
def selectTractionReference (b : BridgeRuntime) (v : IntentView) : BridgeRuntime :=
  let restart := b.lastTractionGear ≠ v.intent.gear
  let reset := SetpointRequiresReset b.speedPidReferenceValid b.speedPidGear v.intent.gear
    b.speedPidTargetMps v.intent.targetSpeedMps
  { b with
    lastTractionTorqueMagnitudeNm := if restart then 0 else b.lastTractionTorqueMagnitudeNm
    lastTractionGear := v.intent.gear
    speedPidState := if reset then speedPidReset else b.speedPidState
    speedPidReferenceValid := if reset then true else b.speedPidReferenceValid
    speedPidGear := if reset then v.intent.gear else b.speedPidGear
    speedPidTargetMps := if reset then v.intent.targetSpeedMps else b.speedPidTargetMps }

/-- `normalized_output`, with the PID and traction memories it leaves behind. -/
def regulateSpeed (b : BridgeRuntime) (v : IntentView) (now : ℤ) (dtSeconds : ℚ) :
    ℚ × BridgeRuntime :=
  if v.intent.normalizedLongitudinal < 0 ∧ v.physicalEmergencyLatched = false ∧
      b.hardOverspeedLatched = false then
    (v.intent.normalizedLongitudinal, resetSpeedPid b)
  else if TractionPidActive b v now then
    let b := selectTractionReference b v
    let stepped := speedPidStep b.speedControl.pid b.speedPidState
      v.intent.targetSpeedMps v.measuredSpeedMagnitudeMps (reachableNormalizedOutput b dtSeconds)
      dtSeconds
    (stepped.1, { b with speedPidState := stepped.2 })
  else (0, resetSpeedPid b)

/-- The traction magnitude of this tick; `active` is `traction_pid_active`. -/
def limitTraction (b : BridgeRuntime) (active : Prop) [Decidable active] (normalizedOutput : ℚ)
    (dtSeconds : ℚ) : BridgeRuntime :=
  if active ∧ 0 < normalizedOutput then
    { b with
      lastTractionTorqueMagnitudeNm :=
        riseLimitedMotorTorqueNm b.lastTractionTorqueMagnitudeNm
          (boundedMotorTorqueNm normalizedOutput (sessionTorqueLimitNm b))
          b.speedControl.motorTorqueRiseRateNmPerS dtSeconds }
  else resetDirectTraction b

/-- What the bridge puts over the command that ChassisControl generated. -/
def composeCommand (b : BridgeRuntime) (v : IntentView) (generated : Command) : Command :=
  let directPressureBrake := b.physicalBrakeInput && decide (v.intent.normalizedLongitudinal < 0)
  let torque := directionalMotorTorqueNm v.intent.gear b.lastTractionTorqueMagnitudeNm
  let pressure :=
    if directPressureBrake then
      quantizeBrakePressureBar (-v.intent.normalizedLongitudinal * b.maxOrdinaryBrakeBar)
    else 0
  -- Before the first Ready of a parking profile the former arming restrictions hold.
  let restricted :=
    0 ≤ b.runtimeControl.parkingIdleTimeoutMs ∧ b.sessionReadyLatched = false
  { generated with
    motorTorqueNm :=
      if restricted ∨ directPressureBrake then fun _ => 0 else fun _ => torque
    motorSpeedRpm := if restricted then fun _ => 0 else generated.motorSpeedRpm
    steeringAngleDeg := if restricted then fun _ => 0 else generated.steeringAngleDeg
    brakePressureBar :=
      if restricted then fun _ => 0
      else if b.physicalBrakeInput then fun _ => pressure
      else generated.brakePressureBar }

def AcceptsIntent (state : Vcu.State) : Prop :=
  state ∉ [.disarmTorque, .disarmStop, .disarmNeutral, .disarmParkingBrake, .disarmManual,
    .disarmed, .fault]

instance (state : Vcu.State) : Decidable (AcceptsIntent state) :=
  inferInstanceAs (Decidable (¬_))

/-- A command that the controller rejects stops the vehicle. -/
def rejectCommand (b : BridgeRuntime) : BridgeRuntime :=
  let b := latchStopProvenance b .softwareFault .controlCommandInvalid
  resetDirectTraction (resetSpeedPid
    { b with controller := Vcu.emergencyStop b.controller, softwareEstop := true })

/-- Hand the command to the controller. -/
def submitCommand (b : BridgeRuntime) (command : Command) : BridgeRuntime :=
  if AcceptsIntent b.controller.state then
    let result := Vcu.setCommand b.controller command
    if result.1 then { b with controller := result.2 }
    else rejectCommand { b with controller := result.2 }
  else b

/-- The hard latches stop the controller again after the command. -/
def enforceHardLatches (b : BridgeRuntime) (v : IntentView) : BridgeRuntime :=
  { b with
    controller :=
      if v.physicalEmergencyLatched = true ∨ b.hardOverspeedLatched = true then
        Vcu.emergencyStop b.controller
      else b.controller }

/-- ChassisControl, the composed command and its hand-over. -/
def commandChassis (b : BridgeRuntime) (v : IntentView) (chassis : ChassisOutcome) :
    BridgeRuntime :=
  match chassis with
  | .rejected => latchChassisControlFault b
  | .raised => latchChassisControlFault b
  | .controls wheels =>
    match commandFromChassisControl v.intent.gear wheels with
    | none => latchChassisControlFault b
    | some generated => enforceHardLatches (submitCommand b (composeCommand b v generated)) v

/-- The stages before the speed regulation. -/
def settleLatches (b : BridgeRuntime) (v : IntentView) (now : ℤ) : BridgeRuntime :=
  let b := reportPhysicalEmergency b v
  let b := checkArmingMotion b v
  let b := checkHardOverspeed b v
  let b := clearSoftStop b v
  updateAutomaticParking b v now

def updateCommandFromIntent (b : BridgeRuntime) (now : ℤ) (dtSeconds : ℚ)
    (chassis : ChassisOutcome) : BridgeRuntime :=
  if b.chassisControlFaultLatched then holdChassisControlFault b
  else
    let v := intentView b now
    let settled := settleLatches b v now
    let regulated := regulateSpeed settled v now dtSeconds
    let limited :=
      limitTraction regulated.2 (TractionPidActive settled v now) regulated.1 dtSeconds
    commandChassis limited v chassis

end MineTeleop.Bridge
