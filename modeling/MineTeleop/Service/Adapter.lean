import MineTeleop.Service.Profile

/-!
# Vehicle adapters

The interface between the control service and a vehicle.  An adapter answers every call, or
throws, on a state of its own that nothing is assumed about; `mock` is the adapter of the bench.
-/

namespace MineTeleop.Service

open Bridge (StopSource StopReason StopContext)

/-! ## What an adapter reports -/

structure VehicleTelemetry where
  speedMps : ℚ := 0
  gear : Gear := .N
  steeringFeedback : ℚ := 0
  throttleFeedback : ℚ := 0
  brakeFeedback : ℚ := 0
  estop : Bool := false
  stopSource : String := "none"
  stopReason : String := "none"
  stopSequence : ℕ := 0
  deriving DecidableEq

structure VehicleAdapterStatus where
  adapterType : String
  opened : Bool := false
  healthy : Bool := true
  appliedCommandCount : ℕ := 0
  safeStopCount : ℕ := 0
  lastError : String := ""
  feedbackReady : Bool := false
  deriving DecidableEq

/-- The texts of `VcuHandshakeStatus::state`: those of the controller and two of the adapters. -/
inductive HandshakeState where
  | unsupported
  | closed
  | vcu (state : Vcu.State)
  deriving DecidableEq

structure VcuHandshakeStatus where
  supported : Bool := false
  state : HandshakeState := .unsupported
  requested : Bool := false
  ready : Bool := false
  disarming : Bool := false
  parkingReady : Bool := false
  handshakeRevoked : Bool := false
  deriving DecidableEq

/-- `bridge_stop_source`. -/
def stopSourceText (context : StopContext) : String :=
  match context.source with
  | .none => "none"
  | .driverPage =>
    if context.reason = .vcuHandshakeDisconnect ∨ context.reason = .driverDisconnect then
      "page_disconnect"
    else "page_request"
  | .session => "session_loss"
  | .watchdog => "watchdog"
  | .softwareFault => "software_fault"
  | .physicalEmergency => "physical_estop"
  | .unknown => "unknown"

/-- `bridge_stop_reason`. -/
def stopReasonText : StopReason → String
  | .none => "none"
  | .operatorEstop => "operator_estop"
  | .vcuHandshakeDisconnect => "vcu_handshake_disconnect"
  | .driverDisconnect => "driver_disconnect"
  | .sessionLost => "session_lost"
  | .controlApplyTimeout => "control_apply_timeout"
  | .outerControlTimeout => "outer_control_timeout"
  | .feedbackTimeout => "feedback_timeout"
  | .controlApplyFailed => "control_apply_failed"
  | .chassisControlFault => "chassis_control_fault"
  | .canReceiveFailed => "can_receive_failed"
  | .canSendFailed => "can_send_failed"
  | .ioThreadException => "io_thread_exception"
  | .hardOverspeed => "hard_overspeed"
  | .oppositeDirectionMotion => "opposite_direction_motion"
  | .armingMotion => "arming_motion"
  | .controlCommandInvalid => "control_command_invalid"
  | .physicalEmergencySwitch => "physical_emergency_switch"
  | .handshakeRevoked => "handshake_revoked"
  | .criticalCameraFailed => "critical_camera_failed"
  | .mediaPipelineFailed => "media_pipeline_failed"
  | .vcuStateFault => "vcu_state_fault"
  | .sessionProfileRequired => "session_profile_required"
  | .canFeedbackMissing => "can_feedback_missing"
  | .adapterSafetyStatusUnavailable => "adapter_safety_status_unavailable"
  | .legacyUnspecified => "legacy_unspecified"

/-! ## The interface -/

/-- The member functions of `VehicleAdapter` that the service calls. -/
inductive AdapterCall where
  | openAdapter
  | closeAdapter
  | configureRuntimeControlProfile (profile : SessionControlProfile ℚ) (revision : ℕ)
  | clearRuntimeControlProfile
  | applyControl (command : DriverCommand)
  | applySafeStop (output : ControlOutput) (context : StopContext)
  | pollFeedback
  | requestVcuHandshake
  | disconnectVcuHandshake
  | feedbackReady
  | vcuHandshakeStatus
  | readTelemetry
  | status

abbrev AdapterCall.Result : AdapterCall → Type
  | .configureRuntimeControlProfile _ _ => ℕ
  | .pollFeedback => Bool
  | .requestVcuHandshake => Bool
  | .disconnectVcuHandshake => Bool
  | .feedbackReady => Bool
  | .vcuHandshakeStatus => VcuHandshakeStatus
  | .readTelemetry => VehicleTelemetry
  | .status => VehicleAdapterStatus
  | _ => Unit

/-- An adapter on the state `σ`: what each call returns or throws, and the state behind it. -/
structure VehicleAdapter (σ : Type) where
  answer : (call : AdapterCall) → σ → Except Failure call.Result × σ

/-! ## The mock adapter -/

structure MockVehicleAdapter where
  opened : Bool := false
  sessionMotorTorqueLimitNm : ℚ := 0
  sessionBrakePressureLimitBar : ℚ := 0
  runtimeControlProfileRevision : ℕ := 0
  latestOutput : Option ControlOutput := none
  latestStopContext : StopContext := {}
  stopSequence : ℕ := 0
  appliedCommandCount : ℕ := 0
  safeStopCount : ℕ := 0

namespace MockVehicleAdapter

def notOpen : Failure := .runtimeError "mock vehicle adapter is not open"

def configureRuntimeControlProfile (m : MockVehicleAdapter) (profile : SessionControlProfile ℚ)
    (revision : ℕ) : Except Failure ℕ × MockVehicleAdapter :=
  if revision = 0 then (.error (.invalidArgument "profile_revision must be positive"), m)
  else
    (.ok revision,
      { m with
        sessionMotorTorqueLimitNm := profile.maxMotorTorqueNm
        sessionBrakePressureLimitBar := profile.maxBrakePressureBar
        runtimeControlProfileRevision := revision })

def clearRuntimeControlProfile (m : MockVehicleAdapter) : MockVehicleAdapter :=
  { m with
    sessionMotorTorqueLimitNm := 0
    sessionBrakePressureLimitBar := 0
    runtimeControlProfileRevision := 0 }

def applyControl (m : MockVehicleAdapter) (command : DriverCommand) :
    Except Failure Unit × MockVehicleAdapter :=
  if m.opened = false then (.error notOpen, m)
  else
    (.ok (),
      { m with
        latestOutput :=
          some ⟨command.gear, command.steering, command.throttle, command.brake, command.estop,
            false⟩
        appliedCommandCount := m.appliedCommandCount + 1 })

def applySafeStop (m : MockVehicleAdapter) (output : ControlOutput) (context : StopContext) :
    Except Failure Unit × MockVehicleAdapter :=
  if m.opened = false then (.error notOpen, m)
  else
    let stopWasActive := (m.latestOutput.map ControlOutput.estop).getD false
    let starts := output.estop && !stopWasActive
    (.ok (),
      { m with
        latestOutput := some output
        latestStopContext :=
          if starts then context else if output.estop then m.latestStopContext else {}
        stopSequence := if starts then m.stopSequence + 1 else m.stopSequence
        safeStopCount := m.safeStopCount + 1 })

def readTelemetry (m : MockVehicleAdapter) : VehicleTelemetry :=
  match m.latestOutput with
  | none => {}
  | some output =>
    { speedMps := output.throttle * 2
      gear := output.gear
      steeringFeedback := output.steering
      throttleFeedback := output.throttle
      brakeFeedback := output.brake
      estop := output.estop
      stopSource := if output.estop then stopSourceText m.latestStopContext else "none"
      stopReason := if output.estop then stopReasonText m.latestStopContext.reason else "none"
      stopSequence := if output.estop then m.stopSequence else 0 }

def status (m : MockVehicleAdapter) : VehicleAdapterStatus :=
  { adapterType := "mock"
    opened := m.opened
    appliedCommandCount := m.appliedCommandCount
    safeStopCount := m.safeStopCount
    feedbackReady := m.opened }

end MockVehicleAdapter

def mock : VehicleAdapter MockVehicleAdapter where
  answer
    | .openAdapter, m => (.ok (), { m with opened := true })
    | .closeAdapter, m => (.ok (), { m with opened := false })
    | .configureRuntimeControlProfile profile revision, m =>
      m.configureRuntimeControlProfile profile revision
    | .clearRuntimeControlProfile, m => (.ok (), m.clearRuntimeControlProfile)
    | .applyControl command, m => m.applyControl command
    | .applySafeStop output context, m => m.applySafeStop output context
    | .pollFeedback, m => (.ok m.opened, m)
    | .requestVcuHandshake, m => (.ok false, m)
    | .disconnectVcuHandshake, m => (.ok false, m)
    | .feedbackReady, m => (.ok m.opened, m)
    | .vcuHandshakeStatus, m => (.ok {}, m)
    | .readTelemetry, m => (.ok m.readTelemetry, m)
    | .status, m => (.ok m.status, m)

end MineTeleop.Service
