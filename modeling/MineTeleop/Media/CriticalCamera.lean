import MineTeleop.Media.Runtime

/-!
# The threads behind the media runtime

The loop that runs the vehicle's media rebuilds the runtime again and again and keeps one
`CriticalCameraControlLatch` across it.  Inside a runtime the thread of `run`, a thread for every
camera and the callbacks of the transport work on the same flags.  One event is what one of them
does between two points at which another one can come in: the regions under `control_mutex`, those
under the mutex of the latch, and single reads and writes of the atomic flags.  A call of
`start_control_service` holds `control_mutex` over several events; whoever needs the mutex
meanwhile does not move.
-/

namespace MineTeleop.Media

open Runs
open Service
open Stack (VehicleConfig)

/-! ## The latch -/

def criticalCameraStartupTimeoutMs : ℤ := 15000

structure CriticalCameraControlLatch where
  sessionId : String := ""
  inhibited : Bool := false
  armed : Bool := false
  startupStartedMs : Option ℤ := none
  deriving DecidableEq

namespace CriticalCameraControlLatch

def noSession : Failure :=
  .invalidArgument "critical camera control latch requires a non-empty session id"

def enterSession (l : CriticalCameraControlLatch) (sessionId : String) :
    Except Failure (Bool × CriticalCameraControlLatch) :=
  if sessionId = "" then .error noSession
  else if l.sessionId = sessionId then .ok (l.inhibited, l)
  else .ok (false, ⟨sessionId, false, false, none⟩)

def inhibit (l : CriticalCameraControlLatch) (sessionId : String) :
    Except Failure (Bool × CriticalCameraControlLatch) :=
  if sessionId = "" then .error noSession
  else if l.sessionId = "" then
    .error (.runtimeError "critical camera control latch session was not entered")
  else if l.sessionId ≠ sessionId then
    .error (.runtimeError
      "critical camera control latch session does not match the active session")
  else .ok (!l.inhibited, { l with inhibited := true })

/-- The first call fixes when the grace of the session began. -/
def startupGraceActive (l : CriticalCameraControlLatch) (sessionId : String) (nowMs : ℤ) :
    Except Failure (Bool × CriticalCameraControlLatch) :=
  if sessionId = "" ∨ l.sessionId ≠ sessionId ∨ nowMs < 0 then
    .error (.runtimeError "invalid critical camera startup scope or time")
  else
    let startedMs := l.startupStartedMs.getD nowMs
    .ok (decide (l.inhibited = false ∧ l.armed = false ∧ startedMs ≤ nowMs ∧
        nowMs - startedMs < criticalCameraStartupTimeoutMs),
      { l with startupStartedMs := some startedMs })

def armForControl (l : CriticalCameraControlLatch) (sessionId : String) :
    Except Failure (Bool × CriticalCameraControlLatch) :=
  if sessionId = "" ∨ l.sessionId ≠ sessionId then
    .error (.runtimeError "critical camera control scope does not match the active session")
  else if l.inhibited then .ok (false, l)
  else .ok (true, { l with armed := true })

end CriticalCameraControlLatch

/-! ## Cameras -/

structure CameraConfig where
  id : String
  criticalForControl : Bool := true
  reopenAttempts : ℤ := 3

inductive CameraFailureAction where
  | reopenLane
  | disableLane
  deriving DecidableEq

structure CameraFailureDecision where
  inhibitControl : Bool
  laneAction : CameraFailureAction

def cameraFailureDecision (camera : CameraConfig) (failuresInMediaAttempt : ℤ) (retryable : Bool) :
    Except Failure CameraFailureDecision :=
  if failuresInMediaAttempt ≤ 0 then
    .error (.invalidArgument "camera failure count must be positive")
  else
    .ok ⟨camera.criticalForControl,
      if retryable = true ∧ failuresInMediaAttempt ≤ camera.reopenAttempts then .reopenLane
      else .disableLane⟩

def cameraEncodedFrameFresh (lastEncodedMs nowMs timeoutMs : ℤ) : Bool :=
  decide (0 < lastEncodedMs ∧ lastEncodedMs ≤ nowMs ∧ nowMs - lastEncodedMs ≤ timeoutMs)

/-- Where a thread is in `inhibit_control_for_critical_camera`. -/
inductive Inhibition where
  | raising
  | latching
  | stopping
  deriving DecidableEq

inductive LaneThread where
  | idle
  | capturing
  | inhibiting (stage : Inhibition) (action : CameraFailureAction)
  | deciding (action : CameraFailureAction)
  | ended
  deriving DecidableEq

def LaneThread.inhibition : LaneThread → Option Inhibition
  | .inhibiting stage _ => some stage
  | _ => none

/-- On to the next stage, or back to what the thread does about its source. -/
def LaneThread.moveInhibition (next : Option Inhibition) : LaneThread → LaneThread
  | .inhibiting _ action =>
    match next with
    | some stage => .inhibiting stage action
    | none => .deciding action
  | thread => thread

structure Lane where
  camera : CameraConfig
  disabled : Bool := false
  lastEncodedSteadyMs : ℤ := 0
  pipelineStartedSteadyMs : ℤ := 0
  failureCount : ℤ := 0
  thread : LaneThread := .idle

namespace Lane

/-- What `critical_cameras_ready` asks of one lane. -/
def Ready (lane : Lane) (nowMs timeoutMs : ℤ) : Prop :=
  lane.camera.criticalForControl = false ∨
  lane.disabled = false ∧ cameraEncodedFrameFresh lane.lastEncodedSteadyMs nowMs timeoutMs = true

/-- `freshness_reference_ms` -/
def freshnessReferenceMs (lane : Lane) : ℤ :=
  if 0 < lane.lastEncodedSteadyMs then lane.lastEncodedSteadyMs else lane.pipelineStartedSteadyMs

/-- The lane for which `enforce_critical_camera_freshness` inhibits control. -/
def Stale (lane : Lane) (nowMs timeoutMs : ℤ) : Prop :=
  lane.camera.criticalForControl = true ∧ lane.disabled = false ∧
  0 < lane.freshnessReferenceMs ∧ timeoutMs < nowMs - lane.freshnessReferenceMs

instance (lane : Lane) (nowMs timeoutMs : ℤ) : Decidable (lane.Ready nowMs timeoutMs) :=
  inferInstanceAs (Decidable (_ ∨ _))

instance (lane : Lane) (nowMs timeoutMs : ℤ) : Decidable (lane.Stale nowMs timeoutMs) :=
  inferInstanceAs (Decidable (_ ∧ _))

/-- A source that has failed: counted, and judged by `camera_failure_decision`. -/
def fails (lane : Lane) (retryable : Bool) : Lane :=
  let failures := lane.failureCount + 1
  { lane with
    failureCount := failures
    thread :=
      match cameraFailureDecision lane.camera failures retryable with
      | .error _ => .ended
      | .ok decision =>
        if decision.inhibitControl then .inhibiting .raising decision.laneAction
        else .deciding decision.laneAction }

/-- The source is reopened, or the lane given up. -/
def decides (lane : Lane) : Lane :=
  match lane.thread with
  | .deciding .reopenLane => { lane with thread := .capturing }
  | .deciding .disableLane =>
    { lane with
      disabled := true
      thread := .ended }
  | _ => lane

/-- There is no thread to wait for. -/
def Joinable (lane : Lane) : Prop := lane.thread = .idle ∨ lane.thread = .ended

instance (lane : Lane) : Decidable lane.Joinable := inferInstanceAs (Decidable (_ ∨ _))

end Lane

/-! ## The loop -/

/-- Where the thread of `run` is.  `destroying` says that the runtime goes when `stop_pipeline` is
through, and no other attempt follows. -/
inductive RunThread where
  | constructed
  | entered
  | starting
  | looping
  | enforcing (nowMs : ℤ) (startupGrace : Bool)
  | inhibiting (stage : Inhibition)
  | stopping (destroying : Bool)
  | joining (destroying : Bool)
  deriving DecidableEq

def RunThread.inhibition : RunThread → Option Inhibition
  | .inhibiting stage => some stage
  | _ => none

/-- Where the call of `start_control_service` is that holds `control_mutex`. -/
inductive StartStage where
  | checking (start : ControlStart) (lane : ℕ)
  | opening (start : ControlStart)

structure MediaSetup (σ : Type) where
  adapter : VehicleAdapter σ
  createAdapter : VehicleConfig → Except Failure σ
  config : VehicleConfig
  controlEnabled : Bool
  cameras : List CameraConfig
  frameTimeoutMs : ℤ
  bootMs : ℤ
  booted : 0 < bootMs

structure VehicleMediaLoop (σ : Type) where
  steadyMs : ℤ
  latch : CriticalCameraControlLatch := {}
  runtime : VehicleMediaRuntime σ
  sessionId : String := ""
  /-- Whether `control_channel` is published. -/
  controlChannel : Bool := false
  lanes : List Lane := []
  thread : RunThread := .constructed
  start : Option StartStage := none

inductive ThreadId where
  | run
  | lane (i : ℕ)

inductive ThreadEvent where
  | elapsed (ms : ℕ)
  | sessionEntered (sessionId : String)
  | attemptPrepared
  | channelPublished
  | laneStarted (i : ℕ)
  | loopEntered
  | graceChecked
  | freshnessEnforced
  | flagRaised (thread : ThreadId)
  | latchInhibited (thread : ThreadId)
  | controlStopped (thread : ThreadId)
  | laneEncoded (i : ℕ)
  | laneFailed (i : ℕ) (retryable : Bool)
  | laneDecided (i : ℕ)
  | laneEnded (i : ℕ)
  | startCalled (driverId controlToken : String)
  | cameraChecked
  | startArmed
  | startOpened (utcMs : ℤ)
  | stopFlagged
  | pipelineFaulted
  | stopBegun (destroying : Bool)
  | pipelineStopped
  | lanesJoined
  | handled (e : Event)

/-- The events of the runtime that one region under `control_mutex` handles, whoever comes. -/
def Event.isRegion : Event → Bool
  | .nativeControlMessage .. | .controlTick _ | .sessionControlProfile .. |
    .vcuHandshakeCommand _ | .transportStarted | .channelOpened | .channelClosed | .statusSent =>
    true
  | _ => false

/-- Only the published channel may open the link. -/
def Event.opensLink : Event → Bool
  | .channelOpened => true
  | _ => false

namespace VehicleMediaLoop

variable {σ : Type} (setup : MediaSetup σ)

/-- What one event of the runtime does. -/
def act (p : VehicleMediaLoop σ) (e : Event) : VehicleMediaLoop σ :=
  { p with runtime := (p.runtime.respond setup.adapter setup.createAdapter e).2 }

def onLane (p : VehicleMediaLoop σ) (i : ℕ) (f : Lane → Lane) : VehicleMediaLoop σ :=
  { p with lanes := p.lanes.modify i f }

/-- Where a thread is in `inhibit_control_for_critical_camera`, if it is there. -/
def inhibition (p : VehicleMediaLoop σ) : ThreadId → Option Inhibition
  | .run => p.thread.inhibition
  | .lane i => p.lanes[i]?.bind fun lane => lane.thread.inhibition

/-- The thread goes on to the next stage, or returns. -/
def moveInhibition (p : VehicleMediaLoop σ) (thread : ThreadId) (next : Option Inhibition) :
    VehicleMediaLoop σ :=
  match thread with
  | .run =>
    { p with
      thread :=
        match next with
        | some stage => .inhibiting stage
        | none => .looping }
  | .lane i => p.onLane i fun lane => { lane with thread := lane.thread.moveInhibition next }

/-! ### The thread of `run` -/

def beginStop (p : VehicleMediaLoop σ) (destroying : Bool) : VehicleMediaLoop σ :=
  { p with
    runtime := { p.runtime with stopRequested := true }
    thread := .stopping destroying }

def enterSession (p : VehicleMediaLoop σ) (sessionId : String) : VehicleMediaLoop σ :=
  match p.latch.enterSession sessionId with
  | .error _ => p.beginStop true
  | .ok (inherited, latch) =>
    { p with
      latch := latch
      sessionId := sessionId
      thread := .entered }.act setup (.sessionEntered inherited)

def prepareAttempt (p : VehicleMediaLoop σ) : VehicleMediaLoop σ :=
  { p with
    lanes := setup.cameras.map fun camera => { camera := camera }
    thread := .starting }.act setup .attemptPrepared

/-- The first half of `enforce_critical_camera_freshness`, through the mutex of the latch. -/
def checkGrace (p : VehicleMediaLoop σ) : VehicleMediaLoop σ :=
  if setup.controlEnabled = false ∨ p.runtime.stopRequested = true ∨
      p.runtime.controlInhibited = true then p
  else
    match p.latch.startupGraceActive p.sessionId p.steadyMs with
    | .error _ => p.beginStop true
    | .ok (grace, latch) =>
      { p with
        latch := latch
        thread := .enforcing p.steadyMs grace }

/-- The pass over the lanes: it ends at the first stale one, and a grace lets them all pass. -/
def enforceFreshness (p : VehicleMediaLoop σ) (nowMs : ℤ) (startupGrace : Bool) :
    VehicleMediaLoop σ :=
  { p with
    thread :=
      if startupGrace = false ∧ p.runtime.stopRequested = false ∧
          ∃ lane ∈ p.lanes, lane.Stale nowMs setup.frameTimeoutMs then
        .inhibiting .raising
      else .looping }

/-- The lanes have ended: another attempt, or another runtime. -/
def afterJoin (p : VehicleMediaLoop σ) (destroying : Bool) : VehicleMediaLoop σ :=
  if destroying then
    { steadyMs := p.steadyMs, latch := p.latch, runtime := { config := setup.config } }
  else { p with thread := .entered }

/-! ### `inhibit_control_for_critical_camera` -/

def raiseFlag (p : VehicleMediaLoop σ) (thread : ThreadId) : VehicleMediaLoop σ :=
  if p.runtime.controlInhibited then p.moveInhibition thread none
  else
    { p with runtime := { p.runtime with controlInhibited := true } }.moveInhibition thread
      (some .latching)

/-- An error of the latch is reported, and control is stopped all the same. -/
def inhibitLatch (p : VehicleMediaLoop σ) (thread : ThreadId) : VehicleMediaLoop σ :=
  { p with
    latch :=
      match p.latch.inhibit p.sessionId with
      | .error _ => p.latch
      | .ok (_, latch) => latch }.moveInhibition thread (some .stopping)

/-! ### `start_control_service` -/

/-- `driver_id` and `control_token` are what the signaling client has. -/
def callStart (p : VehicleMediaLoop σ) (driverId controlToken : String) : VehicleMediaLoop σ :=
  if setup.controlEnabled = false then p
  else if p.runtime.controlServiceStarted = true ∧ p.runtime.controlService.isSome = true then p
  else if p.runtime.stopRequested = true ∨ p.runtime.controlLinkOpen = false ∨
      p.controlChannel = false then p
  else if p.runtime.controlInhibited then p
  else
    { p with start := some (.checking
        { driverId := driverId
          sessionId := p.sessionId
          controlToken := controlToken
          camerasArmed := true
          utcMs := 0 } 0) }

/-- `critical_cameras_ready`, one lane after the other; the last one is followed by the latch. -/
def checkCamera (p : VehicleMediaLoop σ) (start : ControlStart) (i : ℕ) : VehicleMediaLoop σ :=
  match p.lanes[i]? with
  | none => p
  | some lane =>
    { p with
      start :=
        if lane.Ready p.steadyMs setup.frameTimeoutMs then some (.checking start (i + 1))
        else none }

def armStart (p : VehicleMediaLoop σ) (start : ControlStart) : VehicleMediaLoop σ :=
  match p.latch.armForControl p.sessionId with
  | .error _ =>
    { p with
      runtime := p.runtime.reset setup.adapter
      start := none }
  | .ok (false, _) => { p with start := none }
  | .ok (true, latch) =>
    { p with
      latch := latch
      start := some (.opening start) }

/-- The runtime as the call has found it: nothing but the two flags can have moved since. -/
def found (r : VehicleMediaRuntime σ) : VehicleMediaRuntime σ :=
  { r with
    stopRequested := false
    controlInhibited := false }

/-- The adapter opens, and the flags are looked at again; they are not written here. -/
def openStart (p : VehicleMediaLoop σ) (start : ControlStart) (utcMs : ℤ) : VehicleMediaLoop σ :=
  { p with
    runtime :=
      { ((found p.runtime).respond setup.adapter setup.createAdapter
          (.serviceStarted { start with
            utcMs := utcMs
            stopMeanwhile := p.runtime.stopRequested
            inhibitMeanwhile := p.runtime.controlInhibited })).2 with
        stopRequested := p.runtime.stopRequested
        controlInhibited := p.runtime.controlInhibited }
    start := none }

/-! ### One event -/

/-- What an event does to a loop whose runtime has nothing to show yet. -/
def move (p : VehicleMediaLoop σ) : ThreadEvent → VehicleMediaLoop σ
  | .elapsed ms => { p with steadyMs := p.steadyMs + ms }
  | .sessionEntered sessionId =>
    if p.thread = .constructed then p.enterSession setup sessionId else p
  | .attemptPrepared => if p.thread = .entered then p.prepareAttempt setup else p
  | .channelPublished =>
    if p.thread = .starting ∧ p.start.isNone = true ∧ setup.controlEnabled = true ∧
        p.runtime.stopRequested = false then
      { p with controlChannel := true }
    else p
  | .laneStarted i =>
    if p.thread = .starting then
      p.onLane i fun lane =>
        if lane.thread = .idle then
          { lane with
            pipelineStartedSteadyMs := p.steadyMs
            thread := .capturing }
        else lane
    else p
  | .loopEntered =>
    if p.thread = .starting ∧ ∀ lane ∈ p.lanes, lane.thread ≠ .idle then
      { p with thread := .looping }
    else p
  | .graceChecked => if p.thread = .looping then p.checkGrace setup else p
  | .freshnessEnforced =>
    match p.thread with
    | .enforcing nowMs grace => p.enforceFreshness setup nowMs grace
    | _ => p
  | .flagRaised thread => if p.inhibition thread = some .raising then p.raiseFlag thread else p
  | .latchInhibited thread =>
    if p.inhibition thread = some .latching then p.inhibitLatch thread else p
  | .controlStopped thread =>
    if p.inhibition thread = some .stopping ∧ p.start.isNone = true then
      (p.act setup .criticalCameraFailed).moveInhibition thread none
    else p
  | .laneEncoded i =>
    p.onLane i fun lane =>
      if lane.thread = .idle then lane else { lane with lastEncodedSteadyMs := p.steadyMs }
  | .laneFailed i retryable =>
    p.onLane i fun lane =>
      if lane.thread = .capturing ∧ p.runtime.stopRequested = false then lane.fails retryable
      else lane
  | .laneDecided i => p.onLane i Lane.decides
  | .laneEnded i =>
    p.onLane i fun lane =>
      if lane.thread = .capturing ∧ p.runtime.stopRequested = true then
        { lane with thread := .ended }
      else lane
  | .startCalled driverId controlToken =>
    if p.start.isNone then p.callStart setup driverId controlToken else p
  | .cameraChecked =>
    match p.start with
    | some (.checking start i) => p.checkCamera setup start i
    | _ => p
  | .startArmed =>
    match p.start with
    | some (.checking start i) => if i < p.lanes.length then p else p.armStart setup start
    | _ => p
  | .startOpened utcMs =>
    match p.start with
    | some (.opening start) => p.openStart setup start utcMs
    | _ => p
  | .stopFlagged => { p with runtime := { p.runtime with stopRequested := true } }
  | .pipelineFaulted =>
    -- The flag has been set before, and another attempt may have cleared it since.
    if p.start.isNone then
      { p with runtime :=
          { (p.act setup .pipelineFaulted).runtime with
            stopRequested := p.runtime.stopRequested } }
    else p
  | .stopBegun destroying =>
    match p.thread with
    | .constructed => p.beginStop true
    | .entered | .starting | .looping => p.beginStop destroying
    | _ => p
  | .pipelineStopped =>
    match p.thread with
    | .stopping destroying =>
      if p.start.isNone then
        { p with
          controlChannel := false
          thread := .joining destroying }.act setup .pipelineStopped
      else p
    | _ => p
  | .lanesJoined =>
    match p.thread with
    | .joining destroying =>
      if ∀ lane ∈ p.lanes, lane.Joinable then p.afterJoin setup destroying else p
    | _ => p
  | .handled e =>
    if e.isRegion = true ∧ p.start.isNone = true ∧ (e.opensLink = true → p.controlChannel = true) then
      p.act setup e
    else p

def step (p : VehicleMediaLoop σ) (e : ThreadEvent) : VehicleMediaLoop σ :=
  { p with runtime := p.runtime.unobserved }.move setup e

end VehicleMediaLoop

/-- `run_vehicle_media_loop` -/
def mediaLoop {σ : Type} (setup : MediaSetup σ) : Machine (VehicleMediaLoop σ) ThreadEvent Unit :=
  ⟨{ steadyMs := setup.bootMs, runtime := { config := setup.config } },
    fun p e => ((), p.step setup e)⟩

end MineTeleop.Media
