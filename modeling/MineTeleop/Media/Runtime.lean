import MineTeleop.Service.Traces
import MineTeleop.Stack.Vehicle

/-!
# The media runtime of the vehicle

What stands between the native control transport and the control service: which messages reach
`receive_command`, the watchdog thread's ticks, and when the service is opened and closed.  Every
event runs under `control_mutex`; the trace holds what the service shows in the course of one, the
latest first, and with it stand the command that was handed to the service and what the event has
found of the admission.
-/

namespace MineTeleop.Media

open Bridge (StopContext)
open Programs
open Runs
open Service
open Stack (VehicleConfig createService)

/-! ## The state -/

/-- A native control message: the command, and what the browser says of the operator's intent. -/
structure NativeControlMessage where
  command : ControlCommand
  intentSeq : ℕ := 0
  intentFresh : Bool := false

structure VehicleMediaRuntime (σ : Type) where
  config : VehicleConfig
  stopRequested : Bool := false
  controlInhibited : Bool := false
  controlLinkOpen : Bool := false
  controlServiceStarted : Bool := false
  controlService : Option (World σ) := none
  nativeControlLastAcceptedFreshGear : Option Gear := none
  nativeControlEstopFrozenGear : Option Gear := none
  nativeControlLastAcceptedMonotonicMs : ℤ := 0
  lastVcuStatusMs : Option ℤ := none
  trace : List Observation := []
  /-- The command that this event has handed to `receive_command`. -/
  forwarded : Option ControlCommand := none
  /-- Whether this event has found the profile and the handshake ready, if it has looked. -/
  admission : Option Bool := none

/-- What `start_control_service` finds: the session, the cameras with their latch, and what other
threads do while the adapter opens. -/
structure ControlStart where
  driverId : String
  sessionId : String
  controlToken : String
  camerasArmed : Bool
  utcMs : ℤ
  stopMeanwhile : Bool := false
  inhibitMeanwhile : Bool := false

inductive Event where
  | nativeControlMessage (message : NativeControlMessage) (utcMs monotonicMs : ℤ)
  | controlTick (utcMs : ℤ)
  | sessionControlProfile (request : SessionControlProfileRequest) (utcMs : ℤ)
  | vcuHandshakeCommand (action : String)
  | transportStarted
  | channelOpened
  | channelClosed
  | serviceStarted (start : ControlStart)
  | statusSent
  | sessionEntered (inherited : Bool)
  | attemptPrepared
  | stopRequested
  | pipelineStopped
  | pipelineFaulted
  | criticalCameraFailed
  | controlInhibited

inductive Reply where
  | done
  | discarded (reason : String)
  | received (result : ReceiveResult)
  | threw
  deriving DecidableEq

/-- No steering, throttle or brake. -/
def Still (command : DriverCommand) : Prop :=
  command.steering = 0 ∧ command.throttle = 0 ∧ command.brake = 0

instance (command : DriverCommand) : Decidable (Still command) := inferInstanceAs (Decidable (_ ∧ _))

/-! ## What is asked of the adapter -/

section
variable {σ : Type} (adapter : VehicleAdapter σ)

/-- `handshake_ready` for a command; a handshake that cannot be read is not ready. -/
def handshakeReady (commissioningMode : String) : Operation σ Bool := do
  let adapterStatus ← call adapter .status
  if commissioningMode = "bench" ∧ adapterStatus.adapterType = "mock" then pure true
  else
    try
      let status ← call adapter .vcuHandshakeStatus
      pure status.ready
    catch _ => pure false

/-- `handshake_admission_ready` for a status message. -/
def handshakeAdmissionReady (commissioningMode : String) : Operation σ Bool := do
  let status ← call adapter .vcuHandshakeStatus
  if commissioningMode = "bench" then
    let adapterStatus ← call adapter .status
    pure (status.ready || adapterStatus.adapterType = "mock")
  else pure status.ready

end

namespace VehicleMediaRuntime

variable {σ : Type} (adapter : VehicleAdapter σ)

/-! ## The service -/

def invalidateNativeControlTrustedGear (r : VehicleMediaRuntime σ) : VehicleMediaRuntime σ :=
  { r with nativeControlLastAcceptedFreshGear := none }

/-- An admission that is found gone takes the trusted gear with it. -/
def noteAdmission (r : VehicleMediaRuntime σ) (ready : Bool) : VehicleMediaRuntime σ :=
  { (if ready then r else r.invalidateNativeControlTrustedGear) with admission := some ready }

/-- The service behind an operation, and what the operation has shown. -/
def withService (r : VehicleMediaRuntime σ) (w : World σ) : VehicleMediaRuntime σ :=
  { r with
    controlService := some w
    trace := w.trace ++ r.trace }

/-- The default context of `close`. -/
def sessionLost : StopContext := ⟨.session, .sessionLost⟩

def close (r : VehicleMediaRuntime σ) (context : StopContext) : VehicleMediaRuntime σ :=
  match r.controlService with
  | none => r
  | some w => r.withService (Service.respond adapter w (.close context)).2

/-- `control_service.reset()`: the destructor closes what is still open. -/
def reset (r : VehicleMediaRuntime σ) : VehicleMediaRuntime σ :=
  { r.close adapter sessionLost with
    controlServiceStarted := false
    controlService := none }

def closeControlService (r : VehicleMediaRuntime σ) (context : StopContext) :
    VehicleMediaRuntime σ :=
  (if r.controlServiceStarted then r.close adapter context else r).reset adapter

/-- `send_vcu_handshake_status_locked`, but for the message itself. -/
def sendVcuHandshakeStatus (r : VehicleMediaRuntime σ) : VehicleMediaRuntime σ :=
  if r.controlLinkOpen = false then r
  else
    match r.controlService with
    | none => r.noteAdmission false
    | some w =>
      if r.controlServiceStarted = false then r.noteAdmission false
      else
        let answer := (handshakeAdmissionReady adapter
          r.config.fieldSafety.commissioningMode).exec { w with trace := [] }
        match answer.1 with
        | .ok ready => (r.withService answer.2).noteAdmission ready
        | .error _ => (r.withService answer.2).noteAdmission false

def startControlService (createAdapter : VehicleConfig → Except Failure σ)
    (r : VehicleMediaRuntime σ) (start : ControlStart) : VehicleMediaRuntime σ :=
  if r.controlServiceStarted = true ∧ r.controlService.isSome = true then r
  else if r.stopRequested = true ∨ r.controlLinkOpen = false then r
  else if r.controlInhibited then r
  else if start.camerasArmed = false then r
  else
    let r := r.invalidateNativeControlTrustedGear
    match createAdapter r.config with
    | .error _ => r.reset adapter
    | .ok state =>
      match createService r.config start.driverId start.sessionId start.controlToken 100 with
      | .error _ => r.reset adapter
      | .ok service =>
        let answer := Service.respond adapter ⟨service, state, []⟩ (.start start.utcMs)
        let r := { r.withService answer.2 with
          stopRequested := start.stopMeanwhile
          controlInhibited := start.inhibitMeanwhile }
        match answer.1 with
        | .threw _ => r.reset adapter
        | _ =>
          -- A camera may fail while the adapter opens.
          if r.controlInhibited then
            (r.close adapter ⟨.softwareFault, .criticalCameraFailed⟩).reset adapter
          else if r.stopRequested then (r.close adapter sessionLost).reset adapter
          else { r with controlServiceStarted := true }

/-! ## Control messages -/

/-- The service, when a message may reach it; else why not. -/
def openService (r : VehicleMediaRuntime σ) : Except String (World σ) :=
  if r.stopRequested then .error "runtime_stop_requested"
  else if r.controlInhibited then .error "control_inhibited"
  else
    match r.controlService with
    | none => .error "control_service_unavailable"
    | some w =>
      if r.controlServiceStarted = false then .error "control_service_unavailable"
      else if r.controlLinkOpen = false then .error "control_link_not_open"
      else .ok w

/-- A later ESTOP keeps the gear of the first, and that the one of the last fresh command. -/
def estopGear (r : VehicleMediaRuntime σ) (gear : Gear) : Gear :=
  r.nativeControlEstopFrozenGear.getD (r.nativeControlLastAcceptedFreshGear.getD gear)

/-- The packet gap on the monotonic clock is still open. -/
def NativeGapOpen (r : VehicleMediaRuntime σ) (monotonicMs : ℤ) : Prop :=
  0 < r.nativeControlLastAcceptedMonotonicMs ∧
  r.nativeControlLastAcceptedMonotonicMs ≤ monotonicMs ∧
  monotonicMs - r.nativeControlLastAcceptedMonotonicMs < r.config.control.degradedTimeoutMs

instance (r : VehicleMediaRuntime σ) (monotonicMs : ℤ) : Decidable (r.NativeGapOpen monotonicMs) :=
  inferInstanceAs (Decidable (_ ∧ _))

/-- Why a stale heartbeat is not forwarded, if it is not. -/
def heartbeatDiscard (r : VehicleMediaRuntime σ) (state : SafetyState) (gear : Gear)
    (monotonicMs : ℤ) : Option String :=
  if state ≠ .controlActive then some "stale_safe_heartbeat_control_not_active"
  else if ¬r.NativeGapOpen monotonicMs then some "stale_safe_heartbeat_native_gap_elapsed"
  else if r.nativeControlLastAcceptedFreshGear ≠ some gear then
    some "stale_safe_heartbeat_gear_untrusted"
  else none

/-- The call of `receive_command`, and what the runtime remembers of it. -/
def receiveApply (r : VehicleMediaRuntime σ) (w : World σ) (command : ControlCommand) (gear : Gear)
    (intentFresh : Bool) (utcMs monotonicMs : ℤ) : Reply × VehicleMediaRuntime σ :=
  let answer := Service.respond adapter w (.receiveCommand command utcMs)
  let r := { r.withService answer.2 with forwarded := some command }
  let frozen :=
    if command.estop = true ∧ r.nativeControlEstopFrozenGear = none then some gear
    else r.nativeControlEstopFrozenGear
  match answer.1 with
  | .command result =>
    match result.command with
    | some accepted =>
      if result.accepted then
        (.received result,
          { r with
            nativeControlEstopFrozenGear := frozen
            nativeControlLastAcceptedFreshGear :=
              if command.estop = false ∧ intentFresh = true then some accepted.gear
              else r.nativeControlLastAcceptedFreshGear
            nativeControlLastAcceptedMonotonicMs := monotonicMs })
      else (.received result, r)
    | none => (.received result, r)
  | _ =>
    -- An ESTOP may be latched although its physical stop has thrown.
    if answer.2.service.safety.state = .estop then
      (.threw, { r with nativeControlEstopFrozenGear := frozen })
    else (.threw, r)

/-- An ordinary command, once the link is open and it is no stale request to drive. -/
def handleOrdinary (r : VehicleMediaRuntime σ) (w : World σ) (message : NativeControlMessage)
    (checked : DriverCommand) (utcMs monotonicMs : ℤ) : Reply × VehicleMediaRuntime σ :=
  let answer :=
    (handshakeReady adapter r.config.fieldSafety.commissioningMode).exec { w with trace := [] }
  let r := r.withService answer.2
  match answer.1 with
  | .error _ => (.threw, r)
  | .ok ready =>
    if w.service.activeSessionProfile = none then
      (.discarded "session_profile_not_ready", r.noteAdmission false)
    else if ready = false then
      (.discarded "vcu_handshake_not_ready", r.noteAdmission false)
    else
      match if message.intentFresh then none
          else r.heartbeatDiscard w.service.safety.state checked.gear monotonicMs with
      | some reason => (.discarded reason, r)
      | none =>
        r.receiveApply adapter answer.2 message.command checked.gear message.intentFresh utcMs
          monotonicMs

/-- `handle_control_message` for a control command. -/
def handleControlMessage (r : VehicleMediaRuntime σ) (message : NativeControlMessage)
    (utcMs monotonicMs : ℤ) : Reply × VehicleMediaRuntime σ :=
  match message.command.validate with
  | .error _ => (.threw, r)
  | .ok checked =>
    if message.intentSeq = 0 then (.threw, r)
    else
      match r.openService with
      | .error reason => (.discarded reason, r)
      | .ok w =>
        if checked.estop then
          let gear := r.estopGear checked.gear
          r.receiveApply adapter w { message.command with gear := gear.text } gear
            message.intentFresh utcMs monotonicMs
        else if message.intentFresh = false ∧ ¬Still checked then
          (.discarded "stale_nonzero_intent_discarded", r)
        else r.handleOrdinary adapter w message checked utcMs monotonicMs

/-! ## Other messages, and the watchdog thread -/

def handleSessionProfile (r : VehicleMediaRuntime σ) (request : SessionControlProfileRequest)
    (utcMs : ℤ) : VehicleMediaRuntime σ :=
  match r.openService with
  | .error _ => r
  | .ok w =>
    let answer := Service.respond adapter w (.receiveSessionProfile request utcMs)
    match answer.1 with
    | .profile result =>
      if result.accepted then (r.withService answer.2).invalidateNativeControlTrustedGear
      else r.withService answer.2
    | _ => r.withService answer.2

/-- The operation of an action; an action that is neither is rejected without one. -/
def handshakeOperation (action : String) : Option Service.Event :=
  if action = "connect" then some .requestVcuHandshake
  else if action = "disconnect" then some .disconnectVcuHandshake
  else none

/-- The handshake is reported once for the log, and again for the driver. -/
def handleHandshake (r : VehicleMediaRuntime σ) (action : String) : VehicleMediaRuntime σ :=
  match r.openService with
  | .error _ => r.sendVcuHandshakeStatus adapter
  | .ok w =>
    let answer := match handshakeOperation action with
      | some e => Service.respond adapter w e
      | none => (.answered false, { w with trace := [] })
    let r := r.withService answer.2
    match answer.1 with
    | .threw _ => r
    | reply =>
      let r := if reply = .answered true then r.invalidateNativeControlTrustedGear else r
      let reported := { answer.2 with trace := [] }.after adapter .vcuHandshakeStatus
      let r := r.withService reported
      match (adapter.answer .vcuHandshakeStatus answer.2.adapter).1 with
      | .error _ => r
      | .ok _ => r.sendVcuHandshakeStatus adapter

def tickControlService (r : VehicleMediaRuntime σ) (utcMs : ℤ) : VehicleMediaRuntime σ :=
  if r.stopRequested = true ∨ r.controlInhibited = true ∨ r.controlServiceStarted = false then r
  else
    match r.controlService with
    | none => r
    | some w =>
      let answer := Service.respond adapter w (.tick utcMs)
      let r := r.withService answer.2
      match answer.1 with
      | .threw _ =>
        (r.closeControlService adapter ⟨.softwareFault, .vcuStateFault⟩
          |>.invalidateNativeControlTrustedGear).sendVcuHandshakeStatus adapter
      | _ =>
        if r.controlLinkOpen = true ∧ ∀ last ∈ r.lastVcuStatusMs, 500 ≤ utcMs - last then
          { r.sendVcuHandshakeStatus adapter with lastVcuStatusMs := some utcMs }
        else r

/-! ## The control link and the pipeline -/

def startNativeControlTransport (r : VehicleMediaRuntime σ) : VehicleMediaRuntime σ :=
  if r.stopRequested then r
  else
    { r with
      nativeControlLastAcceptedFreshGear := none
      nativeControlEstopFrozenGear := none
      nativeControlLastAcceptedMonotonicMs := 0 }

def onControlChannelOpen (r : VehicleMediaRuntime σ) : VehicleMediaRuntime σ :=
  if r.stopRequested then r
  else { r.invalidateNativeControlTrustedGear with controlLinkOpen := true }

def closeControlLink (r : VehicleMediaRuntime σ) : VehicleMediaRuntime σ :=
  { r.invalidateNativeControlTrustedGear with controlLinkOpen := false }

def onControlChannelClose (r : VehicleMediaRuntime σ) : VehicleMediaRuntime σ :=
  if r.controlLinkOpen = false then r
  else if r.controlServiceStarted = true ∧ r.controlService.isSome = true then
    r.closeControlLink.closeControlService adapter sessionLost
  else r.closeControlLink

def stopPipeline (r : VehicleMediaRuntime σ) : VehicleMediaRuntime σ :=
  { r.invalidateNativeControlTrustedGear with
    stopRequested := true
    controlLinkOpen := false }.closeControlService adapter sessionLost

/-- What a pipeline fault and a failed camera have in common. -/
def stopControl (r : VehicleMediaRuntime σ) (context : StopContext) : VehicleMediaRuntime σ :=
  (r.invalidateNativeControlTrustedGear.closeControlService adapter context).sendVcuHandshakeStatus
    adapter

-- The two flags are set before the mutex is taken: other events may see them first.
def stopControlForPipelineFault (r : VehicleMediaRuntime σ) : VehicleMediaRuntime σ :=
  { r with stopRequested := true }.stopControl adapter ⟨.softwareFault, .mediaPipelineFailed⟩

def inhibitControlForCriticalCamera (r : VehicleMediaRuntime σ) : VehicleMediaRuntime σ :=
  { r with controlInhibited := true }.stopControl adapter ⟨.softwareFault, .criticalCameraFailed⟩

/-! ## The runtime as a machine -/

/-- The runtime at the beginning of an event. -/
def unobserved (r : VehicleMediaRuntime σ) : VehicleMediaRuntime σ :=
  { r with
    trace := []
    forwarded := none
    admission := none }

def respond (createAdapter : VehicleConfig → Except Failure σ) (r : VehicleMediaRuntime σ)
    (e : Event) : Reply × VehicleMediaRuntime σ :=
  let r := r.unobserved
  match e with
  | .nativeControlMessage message utcMs monotonicMs =>
    r.handleControlMessage adapter message utcMs monotonicMs
  | .controlTick utcMs => (.done, r.tickControlService adapter utcMs)
  | .sessionControlProfile request utcMs => (.done, r.handleSessionProfile adapter request utcMs)
  | .vcuHandshakeCommand action => (.done, r.handleHandshake adapter action)
  | .transportStarted => (.done, r.startNativeControlTransport)
  | .channelOpened => (.done, r.onControlChannelOpen)
  | .channelClosed => (.done, r.onControlChannelClose adapter)
  | .serviceStarted start => (.done, r.startControlService adapter createAdapter start)
  | .statusSent => (.done, r.sendVcuHandshakeStatus adapter)
  | .sessionEntered inherited => (.done, { r with controlInhibited := inherited })
  | .attemptPrepared => (.done, { r with stopRequested := false })
  | .stopRequested => (.done, { r with stopRequested := true })
  | .pipelineStopped => (.done, r.stopPipeline adapter)
  | .pipelineFaulted => (.done, r.stopControlForPipelineFault adapter)
  | .criticalCameraFailed => (.done, r.inhibitControlForCriticalCamera adapter)
  | .controlInhibited => (.done, { r with controlInhibited := true })

end VehicleMediaRuntime

/-- The runtime of one configuration; `createAdapter` is `create_vehicle_adapter`. -/
def machine {σ : Type} (adapter : VehicleAdapter σ)
    (createAdapter : VehicleConfig → Except Failure σ) (config : VehicleConfig) :
    Machine (VehicleMediaRuntime σ) Event Reply :=
  ⟨{ config := config }, VehicleMediaRuntime.respond adapter createAdapter⟩

end MineTeleop.Media
