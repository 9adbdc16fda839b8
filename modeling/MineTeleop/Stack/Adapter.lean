import MineTeleop.Bridge.Loop
import MineTeleop.Service.Control
import Mathlib.Tactic.MkIffOfInductiveProp

/-!
# The dynamic library adapter

`DynamicLibraryVehicleAdapter` over the bridge it has loaded: what each call of the service makes
of the bridge's C entry points.  The io thread runs between the calls, and the clock with it: an
`Interlude` is what happens before one call.
-/

namespace MineTeleop.Stack

open Runs
open Bridge (BridgeRuntime Double OpenConfig OpenEnvironment ApplyArguments ApplyResult ApplyIssue
  RuntimeControlConfig RuntimeControlIssue StopContext StopContextArguments StopSource StopReason
  ChassisOutcome)
open Service

/-! ## The adapter -/

/-- The arguments of the constructor that are kept. -/
structure AdapterConfig where
  libraryPath : String
  canInterface : String
  canBitrate : ℤ
  canTxQueueLength : ℤ
  maxSpeedMps : ℚ
  fullScaleMotorTorqueNm : ℚ
  motorTorqueRiseRateNmPerS : ℚ
  maxOrdinaryBrakePressureBar : ℚ
  controlTimeoutMs : ℤ
  speedFeedbackTimeoutMs : ℤ
  speedPidKp : ℚ
  speedPidKi : ℚ
  speedPidKd : ℚ
  speedPidDerivativeFilterTauMs : ℚ
  speedPidMaxDtMs : ℤ
  hardOverspeedMarginMps : ℚ

/-- What the constructor checks. -/
@[mk_iff] structure AdapterConfig.Valid (c : AdapterConfig) : Prop where
  libraryPath : c.libraryPath ≠ ""
  canInterface : c.canInterface ≠ ""
  canBitrate : 0 < c.canBitrate
  canTxQueueLength : 16 ≤ c.canTxQueueLength
  maxSpeed : 0 ≤ c.maxSpeedMps ∧ c.maxSpeedMps ≤ chassisControlMaxTargetSpeedMps
  fullScale : 0 ≤ c.fullScaleMotorTorqueNm ∧
    c.fullScaleMotorTorqueNm ≤ Bridge.maxFullScaleMotorTorqueNm
  riseRate : 0 ≤ c.motorTorqueRiseRateNmPerS ∧
    c.motorTorqueRiseRateNmPerS ≤ Bridge.maxMotorTorqueRiseRate
  brakePressure : 0 ≤ c.maxOrdinaryBrakePressureBar ∧
    c.maxOrdinaryBrakePressureBar ≤ Bridge.maxOrdinaryBrakePressureBar
  controlTimeout : 20 ≤ c.controlTimeoutMs ∧ c.controlTimeoutMs ≤ 60000
  speedFeedbackTimeout : 20 ≤ c.speedFeedbackTimeoutMs ∧ c.speedFeedbackTimeoutMs ≤ 500 ∧
    c.speedFeedbackTimeoutMs ≤ c.controlTimeoutMs
  kp : 0 < c.speedPidKp ∧ c.speedPidKp ≤ 100
  ki : 0 ≤ c.speedPidKi ∧ c.speedPidKi ≤ 100
  kd : 0 ≤ c.speedPidKd ∧ c.speedPidKd ≤ 100
  filter : 0 ≤ c.speedPidDerivativeFilterTauMs ∧ c.speedPidDerivativeFilterTauMs ≤ 2000
  maxDt : 20 ≤ c.speedPidMaxDtMs ∧ c.speedPidMaxDtMs ≤ 200
  margin : 0 < c.hardOverspeedMarginMps ∧ c.hardOverspeedMarginMps ≤ 36 / (36 / 10)

structure DynamicLibraryVehicleAdapter where
  config : AdapterConfig
  valid : config.Valid
  sessionMotorTorqueLimitNm : ℚ := 0
  sessionBrakePressureLimitBar : ℚ := 0
  runtimeControlProfileRevision : ℕ := 0
  opened : Bool := false
  feedbackReady : Bool := false
  lastError : String := ""
  appliedCommandCount : ℕ := 0
  safeStopCount : ℕ := 0

/-! ## From commands to intents -/

def gearToBridgeValue : Gear → ℤ
  | .N => 1
  | .R => 2
  | .D => 3
  | .P => 4

def bridgeValueToGear (gear : ℤ) : Gear :=
  if gear = 2 then .R else if gear = 3 then .D else if gear = 4 then .P else .N

/-- `command.validate`, of what it checks the numbers: the rest of a command is never written. -/
def validateNumbers (command : DriverCommand) : Except String Unit := do
  let _ ← requireFiniteRange (some command.steering) (-1) 1 "steering"
  let _ ← requireFiniteRange (some command.throttle) 0 1 "throttle"
  let _ ← requireFiniteRange (some command.brake) 0 1 "brake"
  .ok ()

/-- Analog throttle selects a share of the vehicle's speed. -/
def dynamicAdapterTargetSpeedMps (command : DriverCommand) (maxSpeedMps : ℚ) :
    Except String ℚ := do
  validateNumbers command
  check (0 ≤ maxSpeedMps) "max_speed_mps must be finite and non-negative"
  .ok (if (command.gear = .D ∨ command.gear = .R) ∧ command.brake = 0 then
    Bridge.clampValue command.throttle 0 1 * maxSpeedMps
  else 0)

/-- Braking dominates; any throttle asks for the whole ceiling. -/
def dynamicAdapterTargetAcceleration (command : DriverCommand) (tractionCeiling
    sessionMaxBrakePressureBar vehicleMaxBrakePressureBar : ℚ) : Except String ℚ := do
  validateNumbers command
  let ceiling ← requireFiniteRange (some tractionCeiling) 0 1 "traction_ceiling"
  let brakeRatio ← vehicleNormalizedBrakeRequest command.brake sessionMaxBrakePressureBar
    vehicleMaxBrakePressureBar
  .ok (if 0 < command.brake then -brakeRatio else if 0 < command.throttle then ceiling else 0)

/-- `static_cast` of the enumerators: `valid_stop_source` and `valid_stop_reason` undo it. -/
def stopSourceId : StopSource → ℕ
  | .none => 0
  | .driverPage => 1
  | .session => 2
  | .watchdog => 3
  | .softwareFault => 4
  | .physicalEmergency => 5
  | .unknown => 255

def stopReasonId : StopReason → ℕ
  | .none => 0
  | .operatorEstop => 1
  | .vcuHandshakeDisconnect => 2
  | .driverDisconnect => 3
  | .sessionLost => 4
  | .controlApplyTimeout => 5
  | .outerControlTimeout => 6
  | .feedbackTimeout => 7
  | .controlApplyFailed => 8
  | .chassisControlFault => 9
  | .canReceiveFailed => 10
  | .canSendFailed => 11
  | .ioThreadException => 12
  | .hardOverspeed => 13
  | .oppositeDirectionMotion => 14
  | .armingMotion => 15
  | .controlCommandInvalid => 16
  | .physicalEmergencySwitch => 17
  | .handshakeRevoked => 18
  | .criticalCameraFailed => 19
  | .mediaPipelineFailed => 20
  | .vcuStateFault => 21
  | .sessionProfileRequired => 22
  | .canFeedbackMissing => 23
  | .adapterSafetyStatusUnavailable => 24
  | .legacyUnspecified => 255

namespace DynamicLibraryVehicleAdapter

def openConfig (a : DynamicLibraryVehicleAdapter) : OpenConfig :=
  { fullScaleMotorTorqueNm := some a.config.fullScaleMotorTorqueNm
    hardSpeedLimitMps := some a.config.maxSpeedMps
    controlTimeoutMs := a.config.controlTimeoutMs
    speedFeedbackTimeoutMs := a.config.speedFeedbackTimeoutMs
    speedPidKp := some a.config.speedPidKp
    speedPidKi := some a.config.speedPidKi
    speedPidKd := some a.config.speedPidKd
    speedPidDerivativeFilterTauMs := some a.config.speedPidDerivativeFilterTauMs
    speedPidMaxDtMs := a.config.speedPidMaxDtMs
    hardOverspeedMarginMps := some a.config.hardOverspeedMarginMps
    maxOrdinaryBrakePressureBar := some a.config.maxOrdinaryBrakePressureBar
    motorTorqueRiseRateNmPerS := some a.config.motorTorqueRiseRateNmPerS }

def tractionCeiling (a : DynamicLibraryVehicleAdapter) : ℚ :=
  if 0 < a.config.fullScaleMotorTorqueNm then
    a.sessionMotorTorqueLimitNm / a.config.fullScaleMotorTorqueNm
  else 0

/-- The arguments of `apply_state_v3`. -/
def applyArguments (a : DynamicLibraryVehicleAdapter) (command : DriverCommand) :
    Except String ApplyArguments := do
  let velocity ← dynamicAdapterTargetSpeedMps command a.config.maxSpeedMps
  let acceleration ← dynamicAdapterTargetAcceleration command a.tractionCeiling
    a.sessionBrakePressureLimitBar a.config.maxOrdinaryBrakePressureBar
  .ok
    { targetGear := gearToBridgeValue command.gear
      targetVx := some velocity
      targetAx := some acceleration
      steeringValues := some (List.replicate 4 (some command.steering))
      operatorActive := if command.operatorActive && !command.estop then 1 else 0 }

/-- The arguments of `apply_state`, which is `apply_state_v3` without an operator. -/
def stopArguments (output : ControlOutput) : ApplyArguments :=
  { targetGear := gearToBridgeValue output.gear
    targetVx := some 0
    targetAx := some (-output.brake)
    steeringValues := some (List.replicate 4 (some output.steering)) }

/-- The checks of `configure_runtime_control_profile` before the bridge is called. -/
def ExceedsVehicleLimits (a : DynamicLibraryVehicleAdapter) (profile : SessionControlProfile ℚ)
    (revision : ℕ) : Prop :=
  revision = 0 ∨
  a.config.maxSpeedMps * (36 / 10) + 1 / 1000000000 < profile.targetSpeedKph ∨
  a.config.fullScaleMotorTorqueNm + 1 / 1000000000 < profile.maxMotorTorqueNm ∨
  a.config.maxOrdinaryBrakePressureBar + 1 / 1000000000 < profile.maxBrakePressureBar

instance (a : DynamicLibraryVehicleAdapter) (profile : SessionControlProfile ℚ) (revision : ℕ) :
    Decidable (a.ExceedsVehicleLimits profile revision) := inferInstanceAs (Decidable (_ ∨ _))

end DynamicLibraryVehicleAdapter

/-- The `BridgeRuntimeControlConfigV3` of a profile. -/
def runtimeControlConfig (profile : SessionControlProfile ℚ) (revision : ℕ) :
    RuntimeControlConfig :=
  { profileVersion := profile.profileVersion.toNat
    profileRevision := revision
    targetSpeedLimitMps := some (profile.targetSpeedKph / (36 / 10))
    maxMotorTorqueNm := some profile.maxMotorTorqueNm
    maxBrakePressureBar := some profile.maxBrakePressureBar
    maxSteeringRequest := some (profile.maxSteeringAngleDeg / chassisControlMaxSteeringAngleDeg)
    speedPidKp := some profile.speedPidKp
    speedPidKi := some profile.speedPidKi
    speedPidKd := some profile.speedPidKd
    speedPidDerivativeFilterTauMs := some profile.speedPidDerivativeFilterTauMs
    speedPidMaxDtMs := profile.speedPidMaxDtMs
    motorTorqueRiseRateNmPerS := some profile.motorTorqueRiseRateNmPerS
    parkingIdleTimeoutMs := profile.parkingIdleTimeoutMs }

/-! ## The process -/

/-- What the io thread does between two entry points. -/
inductive IoEvent where
  | ingest (now : ℤ) (frame : Vcu.CanFrame)
  | receiveFailure (receiveResult : ℤ)
  | tick (now : ℤ) (chassis : ChassisOutcome)
  | sendResult (failed : Bool)
  | ioException

def IoEvent.toEvent : IoEvent → Bridge.Event
  | .ingest now frame => .ingest now frame
  | .receiveFailure receiveResult => .receiveFailure receiveResult
  | .tick now chassis => .tick now chassis
  | .sendResult failed => .sendResult failed
  | .ioException => .ioException

/-- What the io thread does before a call, the clock the call reads, and what a call that opens or
closes the bridge depends on. -/
structure Interlude where
  io : List IoEvent := []
  now : ℤ
  loading : Except String OpenEnvironment := .error ""
  closing : List IoEvent := []

/-- An event of the bridge, and the call of the adapter it belongs to, if it is not the io thread's. -/
structure Handled where
  cause : Option AdapterCall
  step : Step BridgeRuntime Bridge.Event Bridge.Reply

/-- The adapter, the bridge behind it, and the calls still to come; `log` has every event of the
bridge, the latest first. -/
structure Chassis where
  adapter : DynamicLibraryVehicleAdapter
  bridge : Option BridgeRuntime := none
  feedbackGeneration : ℕ := 0
  lastPolledGeneration : ℕ := 0
  script : ℕ → Interlude := fun _ => { now := 0 }
  calls : ℕ := 0
  log : List Handled := []

namespace Chassis

/-- The event brings a frame that the controller takes. -/
def frameAccepted (b : BridgeRuntime) : Bridge.Event → Bool
  | .ingest _ frame => (Vcu.ingest b.controller frame).1
  | _ => false

/-- The bridge answers an event. -/
def feed (c : Chassis) (cause : Option AdapterCall) (b : BridgeRuntime) (e : Bridge.Event) :
    Chassis :=
  { c with
    bridge := some (Bridge.respond b e).2
    feedbackGeneration :=
      if frameAccepted b e then c.feedbackGeneration + 1 else c.feedbackGeneration
    log := ⟨cause, (Bridge.machine b).observe b e⟩ :: c.log }

/-- Without a runtime nothing happens. -/
def deliver (c : Chassis) (cause : Option AdapterCall) (e : Bridge.Event) : Chassis :=
  match c.bridge with
  | none => c
  | some b => c.feed cause b e

def runIo (c : Chassis) (io : List IoEvent) : Chassis :=
  io.foldl (fun c e => c.deliver none e.toEvent) c

def interlude (c : Chassis) : Interlude := c.script c.calls

/-- What happens before the next call. -/
def advance (c : Chassis) : Chassis :=
  { c.runIo c.interlude.io with calls := c.calls + 1 }

def withAdapter (c : Chassis) (f : DynamicLibraryVehicleAdapter → DynamicLibraryVehicleAdapter) :
    Chassis :=
  { c with adapter := f c.adapter }

def failed (c : Chassis) (what : String) : Except Failure Unit × Chassis :=
  (.error (.runtimeError what), c.withAdapter fun a => { a with lastError := what })

/-- `check_result`. -/
def checkResult (c : Chassis) (result : ℤ) (operation : String) : Except Failure Unit × Chassis :=
  if result = 0 then (.ok (), c.withAdapter fun a => { a with lastError := "" })
  else c.failed (operation ++ " failed with code " ++ toString result)

def notOpen : Failure := .runtimeError "dynamic vehicle adapter is not open"

/-! ### Opening and closing -/

/-- `mine_teleop_chassis_open_v4`. -/
def openV4 (c : Chassis) (env : OpenEnvironment) : ℤ × Chassis :=
  match Bridge.openV4
      { env with
        interfaceNamed := decide (c.adapter.config.canInterface ≠ "")
        alreadyOpen := c.bridge.isSome }
      c.adapter.openConfig with
  | .error code => (code, c)
  | .ok b => (0, { c with bridge := some b, feedbackGeneration := 0, lastPolledGeneration := 0 })

/-- The library is loaded and the interface prepared before the bridge is opened. -/
def openAdapter (c : Chassis) (loading : Except String OpenEnvironment) :
    Except Failure Unit × Chassis :=
  match loading with
  | .error what => c.failed what
  | .ok env =>
    let opened := c.openV4 env
    let checked := opened.2.checkResult opened.1 "mine_teleop_chassis_open_v4"
    match checked.1 with
    | .error e => (.error e, checked.2)
    | .ok () => (.ok (), checked.2.withAdapter fun a => { a with opened := true })

/-- `mine_teleop_chassis_close`: the io thread runs while `close` waits for the disarm. -/
def closeBridge (c : Chassis) (closing : List IoEvent) : Chassis :=
  { ((c.deliver (some .closeAdapter) .beginClose).runIo closing).deliver (some .closeAdapter)
      .finishClose with
    bridge := none }

def closeAdapter (c : Chassis) (closing : List IoEvent) : Except Failure Unit × Chassis :=
  if c.adapter.opened = false then (.ok (), c)
  else
    (.ok (), (c.closeBridge closing).withAdapter fun a =>
      { a with lastError := "", opened := false, feedbackReady := false })

/-! ### Profiles -/

def runtimeControlResultCode : RuntimeControlIssue → ℤ
  | .none => 0
  | .argumentsInvalid => -1
  | .runtimeUnavailable => -2
  | _ => -3

def runtimeControlIssueId : RuntimeControlIssue → ℕ
  | .none => 0
  | .genericRejected => 1
  | .runtimeUnavailable => 2
  | .argumentsInvalid => 3
  | .parkingRequired => 4
  | .staleRevision => 5
  | .internalError => 6

/-- `mine_teleop_chassis_configure_runtime_control_v3`. -/
def configureV3 (c : Chassis) (now : ℤ) (cause : AdapterCall) (config : RuntimeControlConfig) :
    RuntimeControlIssue × ℕ × Chassis :=
  match c.bridge with
  | none => (.runtimeUnavailable, 0, c)
  | some b =>
    let r := Bridge.configure b now .v3 config
    (r.1, r.2.1, c.feed (some cause) b (.configure now .v3 config))

def configureRuntimeControlProfile (c : Chassis) (now : ℤ) (profile : SessionControlProfile ℚ)
    (revision : ℕ) : Except Failure ℕ × Chassis :=
  if c.adapter.opened = false then (.error notOpen, c)
  else if c.adapter.ExceedsVehicleLimits profile revision then
    (.error (.invalidArgument "runtime control profile exceeds vehicle limits"), c)
  else
    let configured := c.configureV3 now (.configureRuntimeControlProfile profile revision)
      (runtimeControlConfig profile revision)
    if configured.1 ≠ .none then
      (.error (.runtimeError
        ("mine_teleop_chassis_configure_runtime_control_v3 rejected profile with code " ++
          toString (runtimeControlResultCode configured.1) ++ " and issue " ++
          toString (runtimeControlIssueId configured.1))), configured.2.2)
    else
      (.ok configured.2.1, configured.2.2.withAdapter fun a =>
        { a with
          sessionMotorTorqueLimitNm := profile.maxMotorTorqueNm
          sessionBrakePressureLimitBar := profile.maxBrakePressureBar
          runtimeControlProfileRevision := configured.2.1 })

def clearRuntimeControlProfile (c : Chassis) : Except Failure Unit × Chassis :=
  if c.adapter.opened = false then (.error notOpen, c)
  else
    let checked := (c.deliver (some .clearRuntimeControlProfile) .clearRuntimeControl).checkResult
      (if c.bridge.isSome then 0 else -2) "mine_teleop_chassis_clear_runtime_control_v1"
    match checked.1 with
    | .error e => (.error e, checked.2)
    | .ok () =>
      (.ok (), checked.2.withAdapter fun a =>
        { a with
          sessionMotorTorqueLimitNm := 0
          sessionBrakePressureLimitBar := 0
          runtimeControlProfileRevision := 0 })

/-! ### Controls and stops -/

/-- `mine_teleop_chassis_apply_state_v3`. -/
def applyStateV3 (c : Chassis) (now : ℤ) (cause : AdapterCall) (arguments : ApplyArguments) :
    ApplyResult × Chassis :=
  match c.bridge with
  | none => (⟨-1, .runtimeUnavailable⟩, c)
  | some b => ((Bridge.applyState b now arguments).1, c.feed (some cause) b (.applyState now arguments))

def bridgeApplyIssueCode (issue : ApplyIssue) : String :=
  if issue = .driveGearChangeMovingOrStale then "vcu_drive_gear_change_moving_or_stale"
  else "vcu_control_apply_rejected"

def applyControl (c : Chassis) (now : ℤ) (command : DriverCommand) :
    Except Failure Unit × Chassis :=
  if c.adapter.opened = false then (.error notOpen, c)
  else
    match c.adapter.applyArguments command with
    | .error what => (.error (.invalidArgument what), c)
    | .ok arguments =>
      let applied := c.applyStateV3 now (.applyControl command) arguments
      if applied.1.resultCode ≠ 0 then
        (.error (.controlRejected (bridgeApplyIssueCode applied.1.issue) applied.1.resultCode),
          applied.2.withAdapter fun a =>
            { a with
              lastError := "mine_teleop_chassis_apply_state_v3 rejected control with code " ++
                toString applied.1.resultCode })
      else
        (.ok (), applied.2.withAdapter fun a =>
          { a with lastError := "", appliedCommandCount := a.appliedCommandCount + 1 })

def setStopContextV1 (c : Chassis) (cause : AdapterCall) (context : StopContext) : ℤ × Chassis :=
  let arguments : StopContextArguments :=
    { stopSource := stopSourceId context.source, stopReason := stopReasonId context.reason }
  match c.bridge with
  | none => (-1, c)
  | some b =>
    (if (Bridge.setStopContext b arguments).1 then 0 else -2,
      c.feed (some cause) b (.setStopContext arguments))

def emergencyStop (c : Chassis) (cause : AdapterCall) : ℤ × Chassis :=
  match c.bridge with
  | none => (-1, c)
  | some b => (if (Bridge.emergencyStop b).1 then 0 else -2, c.feed (some cause) b .emergencyStop)

def countStop (r : Except Failure Unit × Chassis) : Except Failure Unit × Chassis :=
  match r.1 with
  | .error e => (.error e, r.2)
  | .ok () => (.ok (), r.2.withAdapter fun a => { a with safeStopCount := a.safeStopCount + 1 })

def applySafeStop (c : Chassis) (now : ℤ) (output : ControlOutput) (context : StopContext) :
    Except Failure Unit × Chassis :=
  if c.adapter.opened = false then (.error notOpen, c)
  else if output.estop = true ∨ output.fullEmergencyBrake = true then
    let named := c.setStopContextV1 (.applySafeStop output context) context
    let checked := named.2.checkResult named.1 "mine_teleop_chassis_set_stop_context_v1"
    match checked.1 with
    | .error e => (.error e, checked.2)
    | .ok () =>
      let stopped := checked.2.emergencyStop (.applySafeStop output context)
      countStop (stopped.2.checkResult stopped.1 "mine_teleop_chassis_emergency_stop")
  else
    let applied := c.applyStateV3 now (.applySafeStop output context)
      (DynamicLibraryVehicleAdapter.stopArguments output)
    countStop (applied.2.checkResult applied.1.resultCode "mine_teleop_chassis_apply_state")

/-! ### Feedback and handshakes -/

/-- `ParallelController::feedback_complete`. -/
def FeedbackComplete (feedback : Vcu.Feedback) : Prop :=
  feedback.handshakeValid = true ∧ feedback.gearValid = true ∧
  feedback.driverGearRequestValid = true ∧ feedback.speedValid = true ∧
  Vcu.AllValid feedback.parkingBrakeValid ∧ Vcu.AllValid feedback.motorModeValid ∧
  Vcu.AllValid feedback.motorTorqueValid ∧ Vcu.AllValid feedback.steeringValid ∧
  Vcu.AllValid feedback.brakeValid

instance (feedback : Vcu.Feedback) : Decidable (FeedbackComplete feedback) :=
  inferInstanceAs (Decidable (_ ∧ _))

/-- `BridgeRuntime::poll`: 1 when there is nothing new. -/
def poll (c : Chassis) : ℤ × Chassis :=
  match c.bridge with
  | none => (-1, c)
  | some b =>
    if b.running = false then (-2, c)
    else if b.ioError ≠ 0 then (b.ioError, c)
    else if b.controller.state ≠ .ready ∨ ¬FeedbackComplete b.controller.feedback then (1, c)
    else if c.lastPolledGeneration = c.feedbackGeneration then (1, c)
    else (0, { c with lastPolledGeneration := c.feedbackGeneration })

def pollFeedback (c : Chassis) : Except Failure Bool × Chassis :=
  if c.adapter.opened = false then (.error notOpen, c)
  else
    let polled := c.poll
    if polled.1 = 1 then (.ok false, polled.2)
    else
      let checked := polled.2.checkResult polled.1 "mine_teleop_chassis_poll_feedback"
      match checked.1 with
      | .error e => (.error e, checked.2)
      | .ok () => (.ok true, checked.2.withAdapter fun a => { a with feedbackReady := true })

def requestVcuHandshake (c : Chassis) (now : ℤ) : Except Failure Bool × Chassis :=
  if c.adapter.opened = false then (.error notOpen, c)
  else
    match c.bridge with
    | none => (.ok false, c)
    | some b =>
      let requested := c.feed (some .requestVcuHandshake) b (.requestParallelHandshake now)
      if (Bridge.requestParallelHandshake b now).1 = false then (.ok false, requested)
      else (.ok true, requested.withAdapter fun a => { a with feedbackReady := false })

def disconnectVcuHandshake (c : Chassis) : Except Failure Bool × Chassis :=
  if c.adapter.opened = false then (.error notOpen, c)
  else
    let result : ℤ :=
      match c.bridge with
      | none => -1
      | some b => if (Bridge.requestPark b).1 then 0 else -2
    let checked := (c.deliver (some .disconnectVcuHandshake) .requestPark).checkResult result
      "mine_teleop_chassis_disconnect_parallel_handshake"
    match checked.1 with
    | .error e => (.error e, checked.2)
    | .ok () => (.ok true, checked.2.withAdapter fun a => { a with feedbackReady := false })

/-- `BridgeRuntime::handshake_status`, as the adapter hands it on. -/
def handshakeStatus (b : BridgeRuntime) (now : ℤ) : VcuHandshakeStatus :=
  { supported := true
    state := .vcu b.controller.state
    requested := decide (b.controller.state ∉ [.standby, .disarmed, .fault])
    ready := decide (b.controller.state = .ready)
    disarming := Bridge.isDisarming b.controller.state
    parkingReady := Bridge.parkingGateFresh b now && decide (Vcu.ParkingReady b.controller)
    handshakeRevoked := b.controller.handshakeRevoked }

def vcuHandshakeStatus (c : Chassis) (now : ℤ) : Except Failure VcuHandshakeStatus :=
  if c.adapter.opened = false then .ok { supported := true, state := .closed }
  else
    match c.bridge with
    | none =>
      .error (.runtimeError "mine_teleop_chassis_read_handshake_status failed with code -1")
    | some b => .ok (handshakeStatus b now)

def vehicleTelemetry (telemetry : Bridge.Telemetry) : VehicleTelemetry :=
  { speedMps := telemetry.speedMps
    gear := bridgeValueToGear telemetry.gear
    steeringFeedback := telemetry.steeringFeedback
    throttleFeedback := telemetry.throttleFeedback
    brakeFeedback := telemetry.brakeFeedback
    estop := telemetry.estop
    stopSource := stopSourceText ⟨telemetry.stopSource, telemetry.stopReason⟩
    stopReason := stopReasonText telemetry.stopReason
    stopSequence := telemetry.stopSequence }

def readTelemetry (c : Chassis) : Except Failure VehicleTelemetry × Chassis :=
  let checked := c.checkResult (if c.bridge.isSome then 0 else -1)
    "mine_teleop_chassis_read_telemetry"
  match checked.1 with
  | .error e => (.error e, checked.2)
  | .ok () =>
    (.ok ((c.bridge.map fun b => vehicleTelemetry b.telemetry).getD {}), checked.2)

def status (c : Chassis) : VehicleAdapterStatus :=
  { adapterType := "dynamic_library"
    opened := c.adapter.opened
    healthy := decide (c.adapter.lastError = "")
    appliedCommandCount := c.adapter.appliedCommandCount
    safeStopCount := c.adapter.safeStopCount
    lastError := c.adapter.lastError
    feedbackReady := c.adapter.feedbackReady }

/-- A call, behind its interlude. -/
def answer (c : Chassis) (now : ℤ) (interlude : Interlude) :
    (call : AdapterCall) → Except Failure call.Result × Chassis
  | .openAdapter => c.openAdapter interlude.loading
  | .closeAdapter => c.closeAdapter interlude.closing
  | .configureRuntimeControlProfile profile revision =>
    c.configureRuntimeControlProfile now profile revision
  | .clearRuntimeControlProfile => c.clearRuntimeControlProfile
  | .applyControl command => c.applyControl now command
  | .applySafeStop output context => c.applySafeStop now output context
  | .pollFeedback => c.pollFeedback
  | .requestVcuHandshake => c.requestVcuHandshake now
  | .disconnectVcuHandshake => c.disconnectVcuHandshake
  | .feedbackReady => (.ok c.adapter.feedbackReady, c)
  | .vcuHandshakeStatus => (c.vcuHandshakeStatus now, c)
  | .readTelemetry => c.readTelemetry
  | .status => (.ok c.status, c)

end Chassis

def dynamicLibrary : VehicleAdapter Chassis where
  answer call c := c.advance.answer c.interlude.now c.interlude call

end MineTeleop.Stack
