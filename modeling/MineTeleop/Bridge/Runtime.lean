import MineTeleop.Bridge.Torque
import MineTeleop.Vcu.FeedbackFrames

/-!
# The state of the chassis bridge

`BridgeRuntime` has the private fields of the class, and the locals of `io_loop_impl` that
outlive an iteration.  Times are nanoseconds of the monotonic clock.  The logger, the socket and
the snapshot that only `poll` reads are left out: nothing else reads them.

A double that crosses the C ABI may be NaN or infinite: there it is an `Option ℚ`, `none` for a
value that is not finite.  Inside the bridge every double has been checked and is a rational.
-/

namespace MineTeleop.Bridge

/-- A double of the C ABI, `none` when it is not finite. -/
abbrev Double := Option ℚ

def feedbackTimeoutNs : ℤ := 500000000
def automaticParkingBrakePressureBar : ℚ := 100
def nanosPerMilli : ℤ := 1000000
def nanosPerSecond : ℚ := 1000000000
/-- `kTransmitPeriodMs` in seconds. -/
def transmitPeriodSeconds : ℚ := 2 / 100
def radiansToDegrees : ℚ := 5729577951308232 / 100000000000000

/-- `duration_cast<milliseconds>`: truncation toward zero. -/
def milliseconds (nanos : ℤ) : ℤ := nanos.tdiv nanosPerMilli

def eTimedOut : ℤ := 110
def eFault : ℤ := 14
def eIo : ℤ := 5

def criticalFeedbackIds : List (BitVec 32) :=
  [0x18F0F5D0#32, 0x18F2F5D0#32, 0x18F3F5D0#32, 0x18F5F5D0#32, 0x18CFF4D0#32,
    0x18A0F4D0#32, 0x18A3F4D0#32, 0x18A6F4D0#32, 0x18A9F4D0#32,
    0x18ACF4D0#32, 0x18AFF4D0#32, 0x18B2F4D0#32, 0x18B5F4D0#32,
    0x18A1F4D0#32, 0x18A4F4D0#32, 0x18A7F4D0#32, 0x18AAF4D0#32,
    0x18ADF4D0#32, 0x18B0F4D0#32, 0x18B3F4D0#32, 0x18B6F4D0#32,
    0x18C0F4D0#32, 0x18C1F4D0#32, 0x18C2F4D0#32, 0x18C3F4D0#32,
    0x18C8F4D0#32, 0x18C9F4D0#32, 0x18CAF4D0#32, 0x18CBF4D0#32]

/-! ## Stop provenance -/

inductive StopSource where
  | none
  | driverPage
  | session
  | watchdog
  | softwareFault
  | physicalEmergency
  | unknown
  deriving DecidableEq, Repr

inductive StopReason where
  | none
  | operatorEstop
  | vcuHandshakeDisconnect
  | driverDisconnect
  | sessionLost
  | controlApplyTimeout
  | outerControlTimeout
  | feedbackTimeout
  | controlApplyFailed
  | chassisControlFault
  | canReceiveFailed
  | canSendFailed
  | ioThreadException
  | hardOverspeed
  | oppositeDirectionMotion
  | armingMotion
  | controlCommandInvalid
  | physicalEmergencySwitch
  | handshakeRevoked
  | criticalCameraFailed
  | mediaPipelineFailed
  | vcuStateFault
  | sessionProfileRequired
  | canFeedbackMissing
  | adapterSafetyStatusUnavailable
  | legacyUnspecified
  deriving DecidableEq, Repr

/-- The ids `valid_stop_source` accepts. -/
def StopSource.ofId : ℕ → Option StopSource
  | 0 => some .none
  | 1 => some .driverPage
  | 2 => some .session
  | 3 => some .watchdog
  | 4 => some .softwareFault
  | 5 => some .physicalEmergency
  | 255 => some .unknown
  | _ => Option.none

/-- The ids `valid_stop_reason` accepts. -/
def StopReason.ofId : ℕ → Option StopReason
  | 0 => some .none
  | 1 => some .operatorEstop
  | 2 => some .vcuHandshakeDisconnect
  | 3 => some .driverDisconnect
  | 4 => some .sessionLost
  | 5 => some .controlApplyTimeout
  | 6 => some .outerControlTimeout
  | 7 => some .feedbackTimeout
  | 8 => some .controlApplyFailed
  | 9 => some .chassisControlFault
  | 10 => some .canReceiveFailed
  | 11 => some .canSendFailed
  | 12 => some .ioThreadException
  | 13 => some .hardOverspeed
  | 14 => some .oppositeDirectionMotion
  | 15 => some .armingMotion
  | 16 => some .controlCommandInvalid
  | 17 => some .physicalEmergencySwitch
  | 18 => some .handshakeRevoked
  | 19 => some .criticalCameraFailed
  | 20 => some .mediaPipelineFailed
  | 21 => some .vcuStateFault
  | 22 => some .sessionProfileRequired
  | 23 => some .canFeedbackMissing
  | 24 => some .adapterSafetyStatusUnavailable
  | 255 => some .legacyUnspecified
  | _ => Option.none

structure StopContext where
  source : StopSource := .none
  reason : StopReason := .none
  deriving DecidableEq

/-! ## Settings, intents, telemetry -/

structure SpeedControlSettings where
  enabled : Bool := false
  hardSpeedLimitMps : ℚ := 0
  speedFeedbackTimeoutMs : ℤ := 500
  pid : SpeedPidConfig := ⟨1, 0, 0, 0, 100⟩
  hardOverspeedMarginMps : ℚ := 1
  motorTorqueRiseRateNmPerS : ℚ := 0

structure RuntimeControlSettings where
  parkingIdleTimeoutMs : ℤ := -1
  active : Bool := false
  revision : ℕ := 0
  targetSpeedLimitMps : ℚ := 0
  maxMotorTorqueNm : ℚ := 0
  maxBrakePressureBar : ℚ := 0
  maxSteeringRequest : ℚ := 0
  motorTorqueRiseRateNmPerS : ℚ := 0

structure ControlIntent where
  gear : ℤ := 1
  targetSpeedMps : ℚ := 0
  normalizedLongitudinal : ℚ := 0
  steering : Vcu.SteeringAxes ℚ := fun _ => 0
  generation : ℕ := 0

structure Telemetry where
  speedMps : ℚ := 0
  gear : ℤ := 1
  steeringFeedback : ℚ := 0
  throttleFeedback : ℚ := 0
  brakeFeedback : ℚ := 0
  estop : Bool := false
  stopSource : StopSource := .none
  stopReason : StopReason := .none
  stopSequence : ℕ := 0

structure BridgeRuntime where
  fullScaleMotorTorqueNm : ℚ
  controlTimeoutMs : ℤ
  openSpeedControl : SpeedControlSettings
  speedControl : SpeedControlSettings
  runtimeControl : RuntimeControlSettings := {}
  physicalBrakeInput : Bool
  maxOrdinaryBrakeBar : ℚ
  controller : Vcu.Controller
  running : Bool := true
  lastSeen : BitVec 32 → Option ℤ := fun _ => none
  ioError : ℤ := 0
  softwareEstop : Bool := false
  operatorIdle : Vcu.OperatorIdleParking := {}
  lastSuccessfulApply : ℤ := 0
  readySince : ℤ := 0
  lastSuccessfulApplyValid : Bool := false
  readySinceValid : Bool := false
  sessionReadyLatched : Bool := false
  feedbackWatchdogArmed : Bool := false
  armingFeedbackStateEntry : ℤ := 0
  armingFeedbackState : Vcu.State := .standby
  armingFeedbackDeadlineValid : Bool := false
  controlWatchdogLatched : Bool := false
  hardOverspeedLatched : Bool := false
  physicalEmergencyReported : Bool := false
  handshakeRevokedReported : Bool := false
  recoverableArmingTimeout : Bool := false
  chassisControlFaultLatched : Bool := false
  clearSoftStopRequested : Bool := false
  pendingStopContext : StopContext := {}
  stopSource : StopSource := .none
  stopReason : StopReason := .none
  stopSequence : ℕ := 0
  latestIntent : ControlIntent := {}
  latestIntentValid : Bool := false
  gearRejectionLatched : Bool := false
  gearRejectionRetainedGear : ℤ := 1
  intentGeneration : ℕ := 0
  speedPidState : SpeedPidState := {}
  speedPidReferenceValid : Bool := false
  speedPidGear : ℤ := 1
  speedPidTargetMps : ℚ := 0
  lastTractionTorqueMagnitudeNm : ℚ := 0
  lastTractionGear : ℤ := 1
  telemetry : Telemetry := {}
  /-- The locals `last_control_tick` and `last_control_tick_valid` of the io loop. -/
  lastControlTick : Option ℤ := none
  /-- The local `consecutive_send_failures` of the io loop. -/
  consecutiveSendFailures : ℕ := 0
  /-- `close` has requested the disarm and waits for it. -/
  closing : Bool := false

/-! ## Freshness -/

def feedbackIdFresh (b : BridgeRuntime) (id : BitVec 32) (now : ℤ) : Bool :=
  (b.lastSeen id).any fun seen => decide (now - seen ≤ feedbackTimeoutNs)

def feedbackFresh (b : BridgeRuntime) (now : ℤ) : Bool :=
  criticalFeedbackIds.all fun id => feedbackIdFresh b id now

def speedFeedbackFresh (b : BridgeRuntime) (now : ℤ) : Bool :=
  b.controller.feedback.speedValid &&
    (b.lastSeen Vcu.Ids.wvcuVehicleSpeed).any fun seen =>
      decide (milliseconds (now - seen) ≤ b.speedControl.speedFeedbackTimeoutMs)

def gearFeedbackFresh (b : BridgeRuntime) (now : ℤ) : Bool :=
  b.controller.feedback.gearValid &&
    decide (1 ≤ b.controller.feedback.gear ∧ b.controller.feedback.gear ≤ 3) &&
    feedbackIdFresh b Vcu.Ids.wvcuVehicleStatus now

def parkingGateFresh (b : BridgeRuntime) (now : ℤ) : Bool :=
  feedbackIdFresh b Vcu.Ids.wvcuHandshake now &&
  feedbackIdFresh b Vcu.Ids.wvcuDriverIntention now &&
  feedbackIdFresh b Vcu.Ids.wvcuVehicleSpeed now &&
  feedbackIdFresh b Vcu.Ids.wvcuVehicleStatus now &&
  feedbackIdFresh b Vcu.Ids.wvcuParkingBrake now

def armingFeedbackFresh (b : BridgeRuntime) (state : Vcu.State) (now : ℤ) : Bool :=
  match state with
  | .waitParkingBrakeReleased => parkingGateFresh b now
  | .waitGear => parkingGateFresh b now && feedbackIdFresh b Vcu.Ids.wvcuVehicleStatus now
  | .waitActuatorModes => feedbackFresh b now
  | _ => true

/-! ## Predicates on the controller state -/

def isDisarming (state : Vcu.State) : Bool :=
  state ∈ [.disarmTorque, .disarmStop, .disarmNeutral, .disarmParkingBrake, .disarmManual]

def speedSafetyActiveState (state : Vcu.State) : Bool :=
  state ∈ [.waitGear, .waitActuatorModes, .ready]

def stationaryArmingState (state : Vcu.State) : Bool :=
  state ∈ [.waitParkingBrakeReleased, .waitGear, .waitActuatorModes]

def automaticParkingEnabled (b : BridgeRuntime) : Bool :=
  decide (0 ≤ b.runtimeControl.parkingIdleTimeoutMs) && b.sessionReadyLatched

def automaticParkingPressureBar (b : BridgeRuntime) : ℚ :=
  if b.sessionReadyLatched then min automaticParkingBrakePressureBar b.maxOrdinaryBrakeBar else 0

def ArmingTimeoutRecoveryReady (b : BridgeRuntime) (now : ℤ) : Prop :=
  b.recoverableArmingTimeout = true ∧ b.ioError = -eTimedOut ∧
  b.controller.state = .disarmed ∧ parkingGateFresh b now = true ∧
  Vcu.ParkingReady b.controller

instance (b : BridgeRuntime) (now : ℤ) : Decidable (ArmingTimeoutRecoveryReady b now) :=
  inferInstanceAs (Decidable (_ ∧ _))

def recoverArmingTimeout (b : BridgeRuntime) : BridgeRuntime :=
  { b with ioError := 0, recoverableArmingTimeout := false }

/-! ## Stop provenance -/

/-- `consume_stop_context_locked`: the pending context, else the defaults. -/
def consumeStopContext (b : BridgeRuntime) (defaultSource : StopSource) (defaultReason : StopReason) :
    StopContext × BridgeRuntime :=
  (if b.pendingStopContext.source = .none then ⟨defaultSource, defaultReason⟩
    else b.pendingStopContext,
    { b with pendingStopContext := {} })

/-- A cause is recorded when none is, or when the physical switch supersedes another one. -/
def Supersedes (b : BridgeRuntime) (source : StopSource) : Prop :=
  b.stopSource = .none ∨ (source = .physicalEmergency ∧ b.stopSource ≠ .physicalEmergency)

instance (b : BridgeRuntime) (source : StopSource) : Decidable (Supersedes b source) :=
  inferInstanceAs (Decidable (_ ∨ _))

def latchStopProvenance (b : BridgeRuntime) (source : StopSource) (reason : StopReason) :
    BridgeRuntime :=
  let cause : StopContext :=
    if source = .none ∨ reason = .none then ⟨.unknown, .legacyUnspecified⟩ else ⟨source, reason⟩
  { b with
    pendingStopContext := if Supersedes b cause.source then {} else b.pendingStopContext
    stopSource := if Supersedes b cause.source then cause.source else b.stopSource
    stopReason := if Supersedes b cause.source then cause.reason else b.stopReason
    stopSequence := if Supersedes b cause.source then b.stopSequence + 1 else b.stopSequence
    telemetry :=
      if Supersedes b cause.source then
        { b.telemetry with
          stopSource := cause.source
          stopReason := cause.reason
          stopSequence := b.stopSequence + 1 }
      else b.telemetry }

def clearStopProvenance (b : BridgeRuntime) : BridgeRuntime :=
  { b with
    pendingStopContext := {}
    stopSource := .none
    stopReason := if b.stopSource = .none then b.stopReason else .none
    telemetry :=
      if b.stopSource = .none then b.telemetry
      else
        { b.telemetry with
          stopSource := .none
          stopReason := .none
          stopSequence := b.stopSequence } }

/-! ## Intents and traction -/

def resetSpeedPid (b : BridgeRuntime) : BridgeRuntime :=
  { b with speedPidState := speedPidReset, speedPidReferenceValid := false }

def resetDirectTraction (b : BridgeRuntime) : BridgeRuntime :=
  { b with lastTractionTorqueMagnitudeNm := 0, lastTractionGear := 1 }

/-- The reported gear when it is one of N, R, D; else N. -/
def reportedGearOrNeutral (b : BridgeRuntime) : ℤ :=
  if b.controller.feedback.gearValid = true ∧ 1 ≤ b.controller.feedback.gear ∧
      b.controller.feedback.gear ≤ 3 then b.controller.feedback.gear
  else 1

def withdrawLatestTraction (b : BridgeRuntime) : BridgeRuntime :=
  let intent :=
    if b.latestIntentValid then b.latestIntent
    else { b.latestIntent with gear := reportedGearOrNeutral b, targetSpeedMps := 0 }
  resetDirectTraction (resetSpeedPid
    { b with
      latestIntent :=
        { intent with normalizedLongitudinal := 0, generation := b.intentGeneration + 1 }
      latestIntentValid := true
      intentGeneration := b.intentGeneration + 1 })

def holdRejectedGear (b : BridgeRuntime) (requestedLongitudinal : ℚ) : BridgeRuntime :=
  let intent : ControlIntent := if b.latestIntentValid then b.latestIntent else {}
  resetDirectTraction (resetSpeedPid
    { b with
      latestIntent :=
        { intent with
          gear := b.gearRejectionRetainedGear
          targetSpeedMps := 0
          normalizedLongitudinal := min 0 requestedLongitudinal
          generation := b.intentGeneration + 1 }
      latestIntentValid := true
      intentGeneration := b.intentGeneration + 1 })

def latchChassisControlFault (b : BridgeRuntime) : BridgeRuntime :=
  let b := latchStopProvenance b .softwareFault .chassisControlFault
  withdrawLatestTraction
    { b with
      chassisControlFaultLatched := true
      ioError := -eFault
      controller := Vcu.transportFault b.controller
      softwareEstop := true
      clearSoftStopRequested := false }

end MineTeleop.Bridge
