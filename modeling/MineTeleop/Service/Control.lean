import MineTeleop.Library.Program
import MineTeleop.Library.Runs
import MineTeleop.Service.Adapter

/-!
# The vehicle control service

Every public operation of `VehicleControlService` as a program over the service, its adapter and
the trace of the operation.  The trace records the calls made to the adapter with the service
they found, every command the receiver accepts and every change of the safety state, the latest
first.
-/

namespace MineTeleop.Service

open Bridge (Double StopSource StopReason StopContext clampValue)
open Programs

/-! ## The state -/

structure ServiceTelemetry where
  seq : ℕ
  sentAtUtcMs : ℤ
  safetyState : SafetyState
  telemetry : VehicleTelemetry
  adapterStatus : VehicleAdapterStatus
  handshake : VcuHandshakeStatus
  activeProfile : Option (SessionControlProfile ℚ)
  lastResult : Option SessionControlProfileResult

structure VehicleControlService where
  vehicleId : String
  driverId : String
  sessionId : String
  controlToken : String
  commissioningMode : String
  receiver : ControlReceiver
  safety : SafetyStateMachine
  requireFeedbackBeforeControl : Bool := true
  maxSpeedKph : ℚ
  maxThrottle : ℚ
  fullScaleMotorTorqueNm : ℚ
  maxBrakePressureBar : ℚ
  maxSteeringAngleDeg : ℚ
  defaultSpeedPidKp : ℚ
  defaultSpeedPidKi : ℚ
  defaultSpeedPidKd : ℚ
  defaultSpeedPidDerivativeFilterTauMs : ℚ
  defaultSpeedPidMaxDtMs : ℤ
  defaultMotorTorqueRiseRateNmPerS : ℚ
  telemetryIntervalMs : ℤ
  lastTelemetryMs : Option ℤ := none
  telemetrySequence : ℕ := 0
  telemetryHistory : List ServiceTelemetry := []
  activeSessionProfile : Option (SessionControlProfile ℚ) := none
  lastSessionProfileRequest : Option SessionControlProfileRequest := none
  lastSessionProfileResult : Option SessionControlProfileResult := none
  lastEffectiveCommand : Option DriverCommand := none
  adapterSafeStopActive : Bool := false
  started : Bool := false

/-- What an operation does that others can see. -/
inductive Observation where
  | called (call : AdapterCall) (result : Except Failure call.Result)
      (service : VehicleControlService)
  | commandAccepted (timestampMs : ℤ)
  | safetyChanged (before after : SafetyState)

structure World (σ : Type) where
  service : VehicleControlService
  adapter : σ
  trace : List Observation := []

abbrev Operation (σ α : Type) := Program (World σ) Failure α

section
variable {σ : Type}

def getService : Operation σ VehicleControlService := do return (← get).service

def modifyService (f : VehicleControlService → VehicleControlService) : Operation σ Unit :=
  modify fun w => { w with service := f w.service }

def observe (observation : Observation) : Operation σ Unit :=
  modify fun w => { w with trace := observation :: w.trace }

/-- A call of the safety state machine. -/
def moveSafety (f : SafetyStateMachine → SafetyStateMachine) : Operation σ Unit :=
  modify fun w =>
    { w with
      service := { w.service with safety := f w.service.safety }
      trace := .safetyChanged w.service.safety.state (f w.service.safety).state :: w.trace }

/-- A call of the adapter. -/
def call (adapter : VehicleAdapter σ) (c : AdapterCall) : Operation σ c.Result := do
  let w ← get
  let answer := adapter.answer c w.adapter
  set { w with adapter := answer.2, trace := .called c answer.1 w.service :: w.trace }
  liftExcept answer.1
where
  liftExcept : Except Failure c.Result → Operation σ c.Result
    | .ok a => pure a
    | .error e => throw e

variable (adapter : VehicleAdapter σ)

def notStarted : Failure := .runtimeError "vehicle control service is not started"

/-! ## The session profile -/

def SessionControlProfileResult.cleared (result : SessionControlProfileResult) :
    SessionControlProfileResult :=
  { result with
    accepted := false
    idempotent := false
    appliedRevision := 0
    reason := "session_profile_cleared"
    effectiveProfile := none }

def clearSessionProfile : Operation σ Unit := do
  modifyService fun s =>
    { s with
      activeSessionProfile := none
      lastEffectiveCommand := none
      lastSessionProfileResult := s.lastSessionProfileResult.map (·.cleared) }
  try call adapter .clearRuntimeControlProfile catch _ => pure ()

/-- `false` when the adapter's stop could not be read. -/
def refreshAdapterSafeStopState : Operation σ Bool := do
  try
    let telemetry ← call adapter .readTelemetry
    let handshake ← call adapter .vcuHandshakeStatus
    let active := telemetry.estop || handshake.disarming
    modifyService fun s => { s with adapterSafeStopActive := active }
    if active then clearSessionProfile adapter
    pure true
  catch _ => pure false

def start : Operation σ Unit := do
  let s ← getService
  if s.started then pure ()
  else
    call adapter .openAdapter
    try call adapter .clearRuntimeControlProfile
    catch e =>
      call adapter .closeAdapter
      throw e
    moveSafety SafetyStateMachine.markReady
    modifyService fun s => { s with started := true }

namespace VehicleControlService

def profileResult (s : VehicleControlService) (request : SessionControlProfileRequest)
    (timestampMs : ℤ) (accepted idempotent : Bool) (reason : String) :
    SessionControlProfileResult :=
  let seq := if request.seq = 0 then 1 else request.seq
  { vehicleId := s.vehicleId
    driverId := s.driverId
    sessionId := s.sessionId
    seq := seq
    sentAtUtcMs := max timestampMs 0
    accepted := accepted
    idempotent := idempotent
    appliedRevision := if accepted then seq else 0
    reason := reason
    effectiveProfile := s.activeSessionProfile }

/-- What a request comes to before the adapter is asked: a reply, the last result again, a
refusal that is remembered, or a profile to install. -/
inductive ProfileDecision where
  | reply (idempotent : Bool) (reason : String)
  | replay (result : SessionControlProfileResult)
  | refuse (reason : String)
  | proceed (profile : SessionControlProfile ℚ)

def tolerance : ℚ := 1 / 1000000000

/-- The hard limits of the vehicle. -/
def checkVehicleLimits (s : VehicleControlService) (profile : SessionControlProfile ℚ) :
    ProfileDecision :=
  if s.maxSpeedKph * s.maxThrottle + tolerance < profile.targetSpeedKph then
    .refuse "target_speed_exceeds_vehicle_limit"
  else if s.fullScaleMotorTorqueNm + tolerance < profile.maxMotorTorqueNm then
    .refuse "motor_torque_exceeds_vehicle_limit"
  else if s.maxBrakePressureBar + tolerance < profile.maxBrakePressureBar then
    .refuse "brake_pressure_exceeds_vehicle_limit"
  else if s.maxSteeringAngleDeg + tolerance < profile.maxSteeringAngleDeg then
    .refuse "steering_exceeds_vehicle_limit"
  else .proceed profile

/-- The profile's own checks, its age and the vehicle's limits. -/
def checkProfile (s : VehicleControlService) (request : SessionControlProfileRequest)
    (timestampMs : ℤ) : ProfileDecision :=
  match request.profile.validate with
  | .error message => .reply false ("invalid_profile:" ++ message)
  | .ok profile =>
    let timestampDeltaMs := timestampMs - request.sentAtUtcMs
    if sessionControlProfileMaxAgeMs < timestampDeltaMs then .reply false "profile_age_exceeded"
    else if timestampDeltaMs < -sessionControlProfileMaxAgeMs then
      .reply false "profile_timestamp_in_future"
    else s.checkVehicleLimits profile

/-- The order of requests: an old one, the last one again, or a new one. -/
def checkSequence (s : VehicleControlService) (request : SessionControlProfileRequest)
    (timestampMs : ℤ) : ProfileDecision :=
  match s.lastSessionProfileRequest with
  | none => s.checkProfile request timestampMs
  | some previous =>
    if request.seq < previous.seq then .reply false "old_seq"
    else if request.seq = previous.seq then
      if ¬request.Identical previous then .reply false "profile_seq_conflict"
      else
        match s.lastSessionProfileResult with
        | none => .reply false "profile_seq_conflict"
        | some last =>
          if s.activeSessionProfile = none ∧ last.accepted = true then
            .reply true "session_profile_cleared"
          else
            .replay
              { last with
                sentAtUtcMs := timestampMs
                idempotent := true
                effectiveProfile := s.activeSessionProfile }
    else s.checkProfile request timestampMs

def decideProfile (s : VehicleControlService) (request : SessionControlProfileRequest)
    (timestampMs : ℤ) : ProfileDecision :=
  match request.toProtocolMetadata.validate with
  | .error message => .reply false ("invalid_profile:" ++ message)
  | .ok () =>
    if request.controlToken = "" then .reply false "invalid_profile:control_token is required"
    else if request.vehicleId ≠ s.vehicleId then .reply false "wrong_vehicle"
    else if request.driverId ≠ s.driverId then .reply false "wrong_driver"
    else if request.sessionId ≠ s.sessionId then .reply false "wrong_session"
    else if request.controlToken ≠ s.controlToken then .reply false "control_token_invalid"
    else s.checkSequence request timestampMs

/-- `empty_profile`: what a first profile is compared with. -/
def emptyProfile (s : VehicleControlService) : SessionControlProfile ℚ :=
  { targetSpeedKph := 0
    maxMotorTorqueNm := 0
    maxBrakePressureBar := 0
    serviceBrakePressureBar := 0
    hardBrakePressureBar := 0
    maxSteeringAngleDeg := 0
    speedPidKp := s.defaultSpeedPidKp
    speedPidKi := s.defaultSpeedPidKi
    speedPidKd := s.defaultSpeedPidKd
    speedPidDerivativeFilterTauMs := s.defaultSpeedPidDerivativeFilterTauMs
    speedPidMaxDtMs := s.defaultSpeedPidMaxDtMs
    motorTorqueRiseRateNmPerS := s.defaultMotorTorqueRiseRateNmPerS }

def currentProfile (s : VehicleControlService) : SessionControlProfile ℚ :=
  s.activeSessionProfile.getD s.emptyProfile

def BrakeParametersChanged (s : VehicleControlService) (profile : SessionControlProfile ℚ) :
    Prop :=
  profile.maxBrakePressureBar ≠ s.currentProfile.maxBrakePressureBar ∨
  profile.serviceBrakePressureBar ≠ s.currentProfile.serviceBrakePressureBar ∨
  profile.hardBrakePressureBar ≠ s.currentProfile.hardBrakePressureBar

def SteeringChanged (s : VehicleControlService) (profile : SessionControlProfile ℚ) : Prop :=
  profile.maxSteeringAngleDeg ≠ s.currentProfile.maxSteeringAngleDeg

def PidParametersChanged (s : VehicleControlService) (profile : SessionControlProfile ℚ) : Prop :=
  profile.speedPidKp ≠ s.currentProfile.speedPidKp ∨
  profile.speedPidKi ≠ s.currentProfile.speedPidKi ∨
  profile.speedPidKd ≠ s.currentProfile.speedPidKd ∨
  profile.speedPidDerivativeFilterTauMs ≠ s.currentProfile.speedPidDerivativeFilterTauMs ∨
  profile.speedPidMaxDtMs ≠ s.currentProfile.speedPidMaxDtMs ∨
  profile.motorTorqueRiseRateNmPerS ≠ s.currentProfile.motorTorqueRiseRateNmPerS

/-- `target_speed_decrease || torque_decrease`; the empty profile has both limits at zero. -/
def LimitDecrease (s : VehicleControlService) (profile : SessionControlProfile ℚ) : Prop :=
  profile.targetSpeedKph + tolerance < s.currentProfile.targetSpeedKph ∨
  profile.maxMotorTorqueNm + tolerance < s.currentProfile.maxMotorTorqueNm

/-- The changes that a vehicle must be parked for. -/
def RequiresParking (s : VehicleControlService) (profile : SessionControlProfile ℚ) : Prop :=
  s.activeSessionProfile = none ∨
  s.currentProfile.targetSpeedKph + tolerance < profile.targetSpeedKph ∨
  s.currentProfile.maxMotorTorqueNm + tolerance < profile.maxMotorTorqueNm ∨
  s.BrakeParametersChanged profile ∨ s.SteeringChanged profile ∨
  s.PidParametersChanged profile ∨
  profile.parkingIdleTimeoutMs ≠ s.currentProfile.parkingIdleTimeoutMs

/-- The limits that only go down are applied to the remembered command at once. -/
def ReappliesCommand (s : VehicleControlService) (profile : SessionControlProfile ℚ) : Prop :=
  s.LimitDecrease profile ∧ ¬s.BrakeParametersChanged profile ∧ ¬s.SteeringChanged profile ∧
  ¬s.PidParametersChanged profile ∧ s.safety.state = .controlActive

instance (s : VehicleControlService) (profile : SessionControlProfile ℚ) :
    Decidable (s.BrakeParametersChanged profile) := inferInstanceAs (Decidable (_ ∨ _))
instance (s : VehicleControlService) (profile : SessionControlProfile ℚ) :
    Decidable (s.SteeringChanged profile) := inferInstanceAs (Decidable (_ ≠ _))
instance (s : VehicleControlService) (profile : SessionControlProfile ℚ) :
    Decidable (s.PidParametersChanged profile) := inferInstanceAs (Decidable (_ ∨ _))
instance (s : VehicleControlService) (profile : SessionControlProfile ℚ) :
    Decidable (s.LimitDecrease profile) := inferInstanceAs (Decidable (_ ∨ _))
instance (s : VehicleControlService) (profile : SessionControlProfile ℚ) :
    Decidable (s.RequiresParking profile) := inferInstanceAs (Decidable (_ ∨ _))
instance (s : VehicleControlService) (profile : SessionControlProfile ℚ) :
    Decidable (s.ReappliesCommand profile) := inferInstanceAs (Decidable (_ ∧ _))

/-- The throttle that a target speed is worth. -/
def profileThrottleLimit (s : VehicleControlService) (profile : SessionControlProfile ℚ) : ℚ :=
  if 0 < s.maxSpeedKph then profile.targetSpeedKph / s.maxSpeedKph else 0

/-- The remembered command under the limits of a new profile. -/
def reapplied (s : VehicleControlService) (profile : SessionControlProfile ℚ)
    (command : DriverCommand) : DriverCommand :=
  { command with
    throttle := min command.throttle (min s.maxThrottle (s.profileThrottleLimit profile)) }

end VehicleControlService

/-- The last lambda of `receive_session_profile`: remember the request and its result. -/
def cacheResult (request : SessionControlProfileRequest) (timestampMs : ℤ) (accepted : Bool)
    (reason : String) : Operation σ SessionControlProfileResult := do
  let s ← getService
  let result := s.profileResult request timestampMs accepted false reason
  modifyService fun s =>
    { s with lastSessionProfileRequest := some request, lastSessionProfileResult := some result }
  pure result

/-- Why the adapter's handshake does not allow a change, if it does not. -/
def parkingRefusal : Operation σ (Option String) := do
  let handshake ←
    try some <$> call adapter .vcuHandshakeStatus
    catch _ => pure none
  match handshake with
  | none => pure (some "parking_ready_required_for_profile_increase")
  | some status =>
    if status.parkingReady = false then pure (some "parking_ready_required_for_profile_increase")
    else if status.state ≠ .vcu .standby ∧ status.state ≠ .vcu .disarmed then
      pure (some "standby_or_disarmed_required_for_profile_change")
    else pure none

/-- The body of the `try`: configure the adapter and apply lower limits at once. -/
def installSessionProfile (request : SessionControlProfileRequest)
    (profile : SessionControlProfile ℚ) : Operation σ Unit := do
  let revision ← call adapter (.configureRuntimeControlProfile profile request.seq)
  if revision ≠ request.seq then
    throw (.runtimeError
      "adapter applied a runtime control revision inconsistent with request seq")
  let s ← getService
  match s.lastEffectiveCommand with
  | none => pure ()
  | some command =>
    if s.ReappliesCommand profile then
      call adapter (.applyControl (s.reapplied profile command))
      modifyService fun s => { s with lastEffectiveCommand := some (s.reapplied profile command) }

/-- The `catch (...)` behind a failed installation. -/
def abandonSessionProfile : Operation σ Unit := do
  try
    call adapter (.applySafeStop ⟨.N, 0, 0, 1, true, false⟩ ⟨.softwareFault, .controlApplyFailed⟩)
  catch _ => pure ()
  clearSessionProfile adapter

def adoptSessionProfile (request : SessionControlProfileRequest)
    (profile : SessionControlProfile ℚ) (timestampMs : ℤ) :
    Operation σ SessionControlProfileResult := do
  let installed ←
    try
      installSessionProfile adapter request profile
      pure true
    catch _ =>
      abandonSessionProfile adapter
      pure false
  if installed then
    modifyService fun s => { s with activeSessionProfile := some profile }
    cacheResult request timestampMs true "accepted"
  else cacheResult request timestampMs false "adapter_session_profile_apply_failed"

def changeSessionProfile (request : SessionControlProfileRequest)
    (profile : SessionControlProfile ℚ) (timestampMs : ℤ) :
    Operation σ SessionControlProfileResult := do
  let s ← getService
  let status ← call adapter .status
  let mockBenchBypass := s.commissioningMode = "bench" ∧ status.adapterType = "mock"
  let refusal ←
    if s.RequiresParking profile ∧ ¬mockBenchBypass then parkingRefusal adapter else pure none
  match refusal with
  | some reason => cacheResult request timestampMs false reason
  | none => adoptSessionProfile adapter request profile timestampMs

def receiveSessionProfile (request : SessionControlProfileRequest) (timestampMs : ℤ) :
    Operation σ SessionControlProfileResult := do
  let s ← getService
  if s.started = false then throw notStarted
  else if timestampMs < 0 then
    throw (.invalidArgument "receive_time_ms must be non-negative")
  else
    match s.decideProfile request timestampMs with
    | .reply idempotent reason =>
      pure (s.profileResult request timestampMs false idempotent reason)
    | .replay result =>
      modifyService fun s => { s with lastSessionProfileResult := some result }
      pure result
    | .refuse reason => cacheResult request timestampMs false reason
    | .proceed profile => changeSessionProfile adapter request profile timestampMs

/-! ## The command watchdog -/

/-- The stop context of a watchdog stop. -/
def watchdogStopContext (state : SafetyState) : StopContext :=
  match state with
  | .degraded | .timeoutBrake => ⟨.watchdog, .outerControlTimeout⟩
  | .estop => ⟨.driverPage, .operatorEstop⟩
  | _ => ⟨.softwareFault, .vcuStateFault⟩

def evaluateControlWatchdog (timestampMs : ℤ) : Operation σ Unit := do
  moveSafety (·.tick timestampMs)
  let s ← getService
  if s.safety.state ∈ [.degraded, .timeoutBrake, .estop, .fault] then
    -- The authority goes before the adapter is touched.
    if s.safety.state ≠ .degraded then clearSessionProfile adapter
    let s ← getService
    let adapterOwnsRecoverableStop :=
      s.adapterSafeStopActive = true ∧ s.safety.state ∈ [.degraded, .timeoutBrake]
    if ¬adapterOwnsRecoverableStop then
      call adapter (.applySafeStop (s.safety.currentOutput timestampMs)
        (watchdogStopContext s.safety.state))

/-! ## Receiving a command -/

def acceptCommand (command : ControlCommand) (timestampMs : ℤ) : Operation σ ReceiveResult := do
  let s ← getService
  match s.receiver.accept command timestampMs with
  | .error e => throw e
  | .ok (result, receiver) =>
    modifyService fun s => { s with receiver := receiver }
    if result.accepted then observe (.commandAccepted timestampMs)
    pure result

/-- Up to the receiver's verdict: an ESTOP is latched before anything else, any other command
finds the watchdog evaluated. -/
def admitCommand (command : ControlCommand) (timestampMs : ℤ) : Operation σ ReceiveResult := do
  if command.estop then
    let result ← acceptCommand command timestampMs
    match result.command with
    | some effective =>
      moveSafety (·.onValidCommand effective timestampMs)
      clearSessionProfile adapter
    | none => evaluateControlWatchdog adapter timestampMs
    pure result
  else
    evaluateControlWatchdog adapter timestampMs
    acceptCommand command timestampMs

namespace VehicleControlService

def sessionThrottleLimit (s : VehicleControlService) : ℚ :=
  match s.activeSessionProfile with
  | some profile => s.profileThrottleLimit profile
  | none => s.maxThrottle

def sessionSteeringAngleLimit (s : VehicleControlService) : ℚ :=
  match s.activeSessionProfile with
  | some profile => profile.maxSteeringAngleDeg
  | none => s.maxSteeringAngleDeg

/-- The command under the limits of vehicle and session, and the warnings they give. -/
def limitCommand (s : VehicleControlService) (effective : DriverCommand) :
    DriverCommand × List String :=
  let vehicleLimitedThrottle := min effective.throttle s.maxThrottle
  let limitedThrottle := min vehicleLimitedThrottle s.sessionThrottleLimit
  let steeringLimit := min s.maxSteeringAngleDeg s.sessionSteeringAngleLimit / 30
  let limitedSteering := clampValue effective.steering (-steeringLimit) steeringLimit
  ({ effective with throttle := limitedThrottle, steering := limitedSteering },
    (if vehicleLimitedThrottle ≠ effective.throttle then ["vehicle_max_throttle_applied"]
      else []) ++
    (if limitedThrottle ≠ vehicleLimitedThrottle then ["session_target_speed_applied"] else []) ++
    (if limitedSteering ≠ effective.steering then
      [if s.activeSessionProfile.isSome ∧
          s.sessionSteeringAngleLimit + tolerance < s.maxSteeringAngleDeg
        then "session_max_steering_applied" else "vehicle_max_steering_applied"]
      else []))

end VehicleControlService

/-- `vehicle_normalized_brake_request`. -/
def vehicleNormalizedBrakeRequest (sessionNormalizedBrake sessionMaxBrakePressureBar
    vehicleMaxBrakePressureBar : ℚ) : Except String ℚ := do
  let brake ← requireFiniteRange (some sessionNormalizedBrake) 0 1 "session_normalized_brake"
  let vehicleMax ← requireFiniteRange (some vehicleMaxBrakePressureBar) 0
    Bridge.maxOrdinaryBrakePressureBar "vehicle_max_brake_pressure_bar"
  let sessionMax ← requireFiniteRange (some sessionMaxBrakePressureBar) 0 vehicleMax
    "session_max_brake_pressure_bar"
  .ok (if 0 < vehicleMax then brake * sessionMax / vehicleMax else 0)

/-- The brake of the command the safety machine remembers is relative to the vehicle's pressure. -/
def safetyCommand (s : VehicleControlService) (command : DriverCommand) :
    Except String DriverCommand :=
  match s.activeSessionProfile with
  | none => .ok command
  | some profile =>
    if command.estop then .ok command
    else do
      let brake ← vehicleNormalizedBrakeRequest command.brake profile.maxBrakePressureBar
        s.maxBrakePressureBar
      .ok { command with brake := brake }

def neutralStop : ControlOutput := ⟨.N, 0, 0, 1, false, true⟩

/-- An adapter that cannot be trusted any more: Fault, and a safe stop. -/
def failControl (timestampMs : ℤ) (stopReason : StopReason) (reason : String)
    (warnings : List String) : Operation σ ReceiveResult := do
  moveSafety SafetyStateMachine.markFault
  let s ← getService
  call adapter (.applySafeStop (s.safety.currentOutput timestampMs) ⟨.softwareFault, stopReason⟩)
  clearSessionProfile adapter
  pure { accepted := false, reason := reason, warnings := warnings }

/-- ESTOP and Fault are latched whatever the adapter does. -/
def latchStop (result : ReceiveResult) (command : DriverCommand) (timestampMs : ℤ) :
    Operation σ ReceiveResult := do
  moveSafety (·.onValidCommand command timestampMs)
  let s ← getService
  let latched := s.safety.state = .estop ∨ s.safety.state = .fault
  if s.adapterSafeStopActive = false ∨ latched then
    if latched then clearSessionProfile adapter
    call adapter (.applySafeStop (s.safety.currentOutput timestampMs)
      (if s.safety.state = .estop then ⟨.driverPage, .operatorEstop⟩
        else ⟨.softwareFault, .vcuStateFault⟩))
  pure result

/-- Hand the limited command to the adapter, and remember it. -/
def applyCommand (result : ReceiveResult) (command remembered : DriverCommand)
    (timestampMs : ℤ) : Operation σ ReceiveResult := do
  let rejection ←
    try
      call adapter (.applyControl command)
      pure none
    catch e =>
      match e with
      | .controlRejected issueCode _ => pure (some issueCode)
      | e => throw e
  match rejection with
  | some issueCode =>
    pure
      { result with
        accepted := false
        reason := "adapter_control_rejected"
        command := none
        issueCode := issueCode }
  | none =>
    moveSafety (·.onValidCommand remembered timestampMs)
    modifyService fun s => { s with lastEffectiveCommand := some command }
    pure result

def commitCommand (result : ReceiveResult) (command : DriverCommand) (timestampMs : ℤ) :
    Operation σ ReceiveResult := do
  let s ← getService
  match safetyCommand s command with
  | .error message => throw (.invalidArgument message)
  | .ok remembered =>
    if command.estop = false ∧ s.safety.state ≠ .estop ∧ s.safety.state ≠ .fault then
      applyCommand adapter result command remembered timestampMs
    else latchStop adapter result remembered timestampMs

/-- `poll_feedback`; `true` when it throws. -/
def pollFeedbackFails : Operation σ Bool := do
  try
    let _ ← call adapter .pollFeedback
    pure false
  catch _ => pure true

/-- The checks of an ordinary command against the adapter; an ESTOP passes them all. -/
def observeAdapter (result : ReceiveResult) (command : DriverCommand) (timestampMs : ℤ) :
    Operation σ ReceiveResult := do
  let pollFailed ← if command.estop then pure false else pollFeedbackFails adapter
  let observed ← refreshAdapterSafeStopState adapter
  let s ← getService
  if command.estop then commitCommand adapter result command timestampMs
  else if s.adapterSafeStopActive then
    pure { accepted := false, reason := "adapter_safe_stop_active", warnings := result.warnings }
  else if observed = false then
    failControl adapter timestampMs .adapterSafetyStatusUnavailable
      "adapter_safety_status_unavailable" result.warnings
  else if pollFailed = true ∧ s.requireFeedbackBeforeControl = true then
    failControl adapter timestampMs .canFeedbackMissing "can_feedback_poll_failed" result.warnings
  else
    let ready ←
      if s.requireFeedbackBeforeControl then call adapter .feedbackReady else pure true
    if ready then commitCommand adapter result command timestampMs
    else
      call adapter (.applySafeStop neutralStop ⟨.softwareFault, .canFeedbackMissing⟩)
      clearSessionProfile adapter
      pure { accepted := false, reason := "can_feedback_missing", warnings := result.warnings }

/-- An accepted command, up to the limits of vehicle and session. -/
def handleAccepted (result : ReceiveResult) (effective : DriverCommand) (timestampMs : ℤ) :
    Operation σ ReceiveResult := do
  let s ← getService
  if effective.estop = false ∧ s.activeSessionProfile = none then
    if s.adapterSafeStopActive = false then
      call adapter (.applySafeStop neutralStop ⟨.softwareFault, .sessionProfileRequired⟩)
    pure (.rejected "session_control_profile_required")
  else if effective.estop = false ∧ s.safety.state = .degraded ∧
      (VehicleControlService.tolerance < effective.throttle ∨
        VehicleControlService.tolerance < |effective.steering|) then
    -- A gap withdraws the traction; only a neutral command gives it back.
    pure { result with accepted := false, reason := "degraded_neutral_required", command := none }
  else
    let limited := s.limitCommand effective
    observeAdapter adapter
      { result with command := some limited.1, warnings := result.warnings ++ limited.2 }
      limited.1 timestampMs

def receiveCommand (command : ControlCommand) (timestampMs : ℤ) : Operation σ ReceiveResult := do
  let s ← getService
  if s.started = false then throw notStarted
  else
    let result ← admitCommand adapter command timestampMs
    match result.command with
    | none => pure result
    | some effective => handleAccepted adapter result effective timestampMs

/-! ## Handshakes, ticks, reset and close -/

def requestVcuHandshake : Operation σ Bool := do
  let s ← getService
  if s.started = false then throw notStarted
  else if s.activeSessionProfile = none then pure false
  else if s.safety.state = .estop ∨ s.safety.state = .fault then pure false
  else
    let granted ← call adapter .requestVcuHandshake
    if granted = false then pure false
    else
      let s ← getService
      let reset := s.safety.resetToStandby
      moveSafety fun _ => reset.2
      if reset.1 = false then pure false
      else
        modifyService fun s => { s with adapterSafeStopActive := false }
        pure true

def disconnectVcuHandshake : Operation σ Bool := do
  let s ← getService
  if s.started = false then throw notStarted
  else
    let disconnected ← call adapter .disconnectVcuHandshake
    if disconnected then
      modifyService fun s => { s with adapterSafeStopActive := true }
      clearSessionProfile adapter
    pure disconnected

def maxVehicleTelemetryHistory : ℕ := 1024

/-- The sequence number is taken once the adapter's telemetry has been read. -/
def buildTelemetry (timestampMs : ℤ) : Operation σ ServiceTelemetry := do
  let telemetry ← call adapter .readTelemetry
  modifyService fun s => { s with telemetrySequence := s.telemetrySequence + 1 }
  let status ← call adapter .status
  let handshake ← call adapter .vcuHandshakeStatus
  let s ← getService
  pure
    { seq := s.telemetrySequence
      sentAtUtcMs := timestampMs
      safetyState := s.safety.state
      telemetry := telemetry
      adapterStatus := status
      handshake := handshake
      activeProfile := s.activeSessionProfile
      lastResult := s.lastSessionProfileResult }

/-- A full history loses its oldest entry before the new one is built. -/
def recordTelemetry (timestampMs : ℤ) : Operation σ Unit := do
  let s ← getService
  let due := match s.lastTelemetryMs with
    | none => true
    | some last => decide (s.telemetryIntervalMs ≤ timestampMs - last)
  if due then
    try
      modifyService fun s =>
        { s with
          telemetryHistory :=
            if s.telemetryHistory.length = maxVehicleTelemetryHistory then
              s.telemetryHistory.tail
            else s.telemetryHistory }
      let telemetry ← buildTelemetry adapter timestampMs
      modifyService fun s =>
        { s with
          telemetryHistory := s.telemetryHistory ++ [telemetry]
          lastTelemetryMs := some timestampMs }
    catch _ => pure ()

def tick (timestampMs : ℤ) : Operation σ Unit := do
  let s ← getService
  if s.started = false then throw notStarted
  else
    let pollFailed ← pollFeedbackFails adapter
    let observed ← refreshAdapterSafeStopState adapter
    let s ← getService
    if (observed = false ∨ pollFailed = true) ∧ s.adapterSafeStopActive = false ∧
        s.requireFeedbackBeforeControl = true ∧ s.safety.state ≠ .estop ∧
        s.safety.state ≠ .fault then
      moveSafety SafetyStateMachine.markFault
    evaluateControlWatchdog adapter timestampMs
    recordTelemetry adapter timestampMs

/-- The gear and the disarming flag the adapter reports, and its stop on the way. -/
def observeForReset : Operation σ (Option Gear) := do
  try
    let telemetry ← call adapter .readTelemetry
    let handshake ← call adapter .vcuHandshakeStatus
    modifyService fun s =>
      { s with adapterSafeStopActive := telemetry.estop || handshake.disarming }
    pure (if handshake.disarming then none else some telemetry.gear)
  catch _ => pure none

def resetEstop (localConfirmed : Bool) (authorizedBy : String) : Operation σ Bool := do
  let s ← getService
  if s.safety.state ≠ .estop ∨ localConfirmed = false ∨ authorizedBy = "" then pure false
  else
    match ← observeForReset adapter with
    | none => pure false
    | some gear =>
      -- Only the adapter's recoverable stop is cleared here, and its gear is kept.
      let cleared ←
        try
          call adapter (.applySafeStop ⟨gear, 0, 0, 0, false, false⟩ {})
          pure true
        catch _ =>
          modifyService fun s => { s with adapterSafeStopActive := true }
          pure false
      if cleared = false then pure false
      else
        let s ← getService
        let reset := s.safety.resetEstop localConfirmed authorizedBy
        moveSafety fun _ => reset.2
        if reset.1 = false then pure false
        else
          modifyService fun s => { s with adapterSafeStopActive := false }
          let _ ← refreshAdapterSafeStopState adapter
          pure true

def close (context : StopContext) : Operation σ Unit := do
  let s ← getService
  if s.started = false then pure ()
  else
    call adapter (.applySafeStop ⟨.N, 0, 0, 1, true, false⟩ context)
    clearSessionProfile adapter
    call adapter .closeAdapter
    modifyService fun s => { s with started := false }

end

/-! ## The service as a machine -/

open Runs

inductive Event where
  | start (timestampMs : ℤ)
  | receiveSessionProfile (request : SessionControlProfileRequest) (timestampMs : ℤ)
  | receiveCommand (command : ControlCommand) (timestampMs : ℤ)
  | requestVcuHandshake
  | disconnectVcuHandshake
  | tick (timestampMs : ℤ)
  | resetEstop (localConfirmed : Bool) (authorizedBy : String) (timestampMs : ℤ)
  | close (context : StopContext)

inductive Reply where
  | done
  | answered (result : Bool)
  | profile (result : SessionControlProfileResult)
  | command (result : ReceiveResult)
  | threw (failure : Failure)
  deriving DecidableEq

section
variable {σ : Type} (adapter : VehicleAdapter σ)

/-- The operation an event calls. -/
def operation : Event → Operation σ Reply
  | .start _ => do start adapter; pure .done
  | .receiveSessionProfile request timestampMs =>
    .profile <$> receiveSessionProfile adapter request timestampMs
  | .receiveCommand command timestampMs => .command <$> receiveCommand adapter command timestampMs
  | .requestVcuHandshake => .answered <$> requestVcuHandshake adapter
  | .disconnectVcuHandshake => .answered <$> disconnectVcuHandshake adapter
  | .tick timestampMs => do tick adapter timestampMs; pure .done
  | .resetEstop localConfirmed authorizedBy _ =>
    .answered <$> resetEstop adapter localConfirmed authorizedBy
  | .close context => do close adapter context; pure .done

/-- One operation, from an empty trace. -/
def respond (w : World σ) (e : Event) : Reply × World σ :=
  let result := (operation adapter e).exec { w with trace := [] }
  (match result.1 with
    | .ok reply => reply
    | .error failure => .threw failure,
    result.2)

/-- The service with its adapter, from the state it was built in. -/
def machine (built : World σ) : Machine (World σ) Event Reply := ⟨built, respond adapter⟩

end

abbrev ServiceStep (σ : Type) := Step (World σ) Event Reply
abbrev ServiceHistory (σ : Type) := History (World σ) Event Reply

/-! ## A vehicle on the bench -/

/-- The service of the development configuration, with the defaults of `FieldSafetyConfig`. -/
def benchService : VehicleControlService :=
  { vehicleId := "vehicle-1"
    driverId := "driver-1"
    sessionId := "session-1"
    controlToken := "token"
    commissioningMode := "bench"
    receiver :=
      { vehicleId := "vehicle-1"
        driverId := "driver-1"
        sessionId := "session-1"
        maxCommandGapMs := 200
        controlToken := "token" }
    safety :=
      { degradedTimeoutMs := 300
        controlTimeoutMs := 800
        profile := [⟨0, 3 / 10⟩, ⟨500, 6 / 10⟩, ⟨1500, 1⟩] }
    maxSpeedKph := 40
    maxThrottle := 1
    fullScaleMotorTorqueNm := 640
    maxBrakePressureBar := 3276 / 10
    maxSteeringAngleDeg := 30
    defaultSpeedPidKp := 1
    defaultSpeedPidKi := 2 / 10
    defaultSpeedPidKd := 0
    defaultSpeedPidDerivativeFilterTauMs := 100
    defaultSpeedPidMaxDtMs := 100
    defaultMotorTorqueRiseRateNmPerS := 0
    telemetryIntervalMs := 100 }

/-- A command to the vehicle on the bench. -/
def benchCommand (seq : ℕ) (sentAtUtcMs : ℤ) (gear : String) (steering throttle brake : ℚ)
    (estop : Bool) : ControlCommand :=
  { vehicleId := "vehicle-1"
    driverId := "driver-1"
    sessionId := "session-1"
    seq := seq
    sentAtUtcMs := sentAtUtcMs
    controlToken := "token"
    gear := gear
    steering := some steering
    throttle := some throttle
    brake := some brake
    estop := estop }

/-- Half of the vehicle's speed, with the default gains. -/
def benchProfile : SessionControlProfile Double :=
  { targetSpeedKph := some 20
    maxMotorTorqueNm := some 300
    maxBrakePressureBar := some 60
    serviceBrakePressureBar := some 20
    hardBrakePressureBar := some 40
    maxSteeringAngleDeg := some 30
    speedPidKp := some 1
    speedPidKi := some (2 / 10)
    speedPidKd := some 0
    speedPidDerivativeFilterTauMs := some 100
    motorTorqueRiseRateNmPerS := some 0 }

def benchRequest (seq : ℕ) (sentAtUtcMs : ℤ) (profile : SessionControlProfile Double) :
    SessionControlProfileRequest :=
  { vehicleId := "vehicle-1"
    driverId := "driver-1"
    sessionId := "session-1"
    seq := seq
    sentAtUtcMs := sentAtUtcMs
    controlToken := "token"
    profile := profile }

end MineTeleop.Service
