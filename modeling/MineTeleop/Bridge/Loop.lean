import MineTeleop.Bridge.Tick

/-!
# One iteration of the io loop, and the bridge as a machine

`tick` is the part of the loop under one lock, from the clock reading to the telemetry.  The
events of `machine` are the entry points and what the io thread does between two ticks; every
event carries the clock reading it takes.
-/

namespace MineTeleop.Bridge

open Runs
open Vcu (CanFrame CommandBatch)

/-! ## The iteration -/

def controlDtSeconds (b : BridgeRuntime) (now : ℤ) : ℚ :=
  match b.lastControlTick with
  | some last => (now - last) / nanosPerSecond
  | none => transmitPeriodSeconds

/-- A revoked handshake is reported once. -/
def reportRevocation (b : BridgeRuntime) : BridgeRuntime :=
  if b.controller.handshakeRevoked = true ∧ b.handshakeRevokedReported = false then
    latchStopProvenance
      (withdrawLatestTraction
        { b with
          handshakeRevokedReported := true
          softwareEstop := true
          clearSoftStopRequested := false })
      .softwareFault .handshakeRevoked
  else b

def reportFault (b : BridgeRuntime) (stateBefore : Vcu.State) : BridgeRuntime :=
  if b.controller.state = .fault ∧ stateBefore ≠ .fault then
    withdrawLatestTraction
      { latchStopProvenance b .softwareFault .vcuStateFault with
        softwareEstop := true
        clearSoftStopRequested := false }
  else b

/-- The session is first Ready in this tick. -/
def BecomesReady (b : BridgeRuntime) : Prop :=
  b.sessionReadyLatched = false ∧ b.controller.state = .ready

/-- The session leaves the states it may be driven in. -/
def LosesReady (b : BridgeRuntime) : Prop :=
  b.sessionReadyLatched = true ∧ speedSafetyActiveState b.controller.state = false

instance (b : BridgeRuntime) : Decidable (BecomesReady b) := inferInstanceAs (Decidable (_ ∧ _))
instance (b : BridgeRuntime) : Decidable (LosesReady b) := inferInstanceAs (Decidable (_ ∧ _))

def latchSessionReady (b : BridgeRuntime) (now : ℤ) : BridgeRuntime :=
  if BecomesReady b then
    { b with
      sessionReadyLatched := true
      feedbackWatchdogArmed := true
      readySince := now
      readySinceValid := true
      controlWatchdogLatched := false }
  else if LosesReady b then
    { b with
      sessionReadyLatched := false
      feedbackWatchdogArmed := false
      readySinceValid := false }
  else b

/-- The grace period of an arming state starts when the state is entered. -/
def armFeedbackDeadline (b : BridgeRuntime) (now : ℤ) : BridgeRuntime :=
  if b.feedbackWatchdogArmed = false ∧ stationaryArmingState b.controller.state = true ∧
      (b.armingFeedbackDeadlineValid = false ∨
        b.armingFeedbackState ≠ b.controller.state) then
    { b with
      armingFeedbackState := b.controller.state
      armingFeedbackStateEntry := now
      armingFeedbackDeadlineValid := true }
  else
    { b with
      armingFeedbackDeadlineValid :=
        b.armingFeedbackDeadlineValid && stationaryArmingState b.controller.state }

/-- Up to the call of the controller's `tick`. -/
def prepareTick (b : BridgeRuntime) (now : ℤ) (chassis : ChassisOutcome) : BridgeRuntime :=
  let guarded :=
    checkControlWatchdog (checkFeedbackTimeout { b with lastControlTick := some now } now) now
  updateCommandFromIntent guarded now (controlDtSeconds b now) chassis

/-- Behind the call of the controller's `tick`. -/
def settleTick (b : BridgeRuntime) (now : ℤ) (stateBefore : Vcu.State) : BridgeRuntime :=
  updateFeedback
    (armFeedbackDeadline
      (latchSessionReady (reportFault (reportRevocation b) stateBefore) now) now)

def tick (b : BridgeRuntime) (now : ℤ) (chassis : ChassisOutcome) :
    Option CommandBatch × BridgeRuntime :=
  if b.running = false then (none, b)
  else
    let prepared := prepareTick b now chassis
    let (batch, controller) := Vcu.tick prepared.controller
    (some batch, settleTick { prepared with controller := controller } now b.controller.state)

/-- The sends of one batch; the third failing batch in a row stops the vehicle. -/
def sendResult (b : BridgeRuntime) (failed : Bool) : BridgeRuntime :=
  let failures := if failed then b.consecutiveSendFailures + 1 else 0
  let b := { b with consecutiveSendFailures := failures }
  if failures = 3 then
    let b := latchStopProvenance { b with ioError := -eIo } .softwareFault .canSendFailed
    { b with controller := Vcu.transportFault b.controller, softwareEstop := true }
  else b

/-- An exception ends the io thread. -/
def ioException (b : BridgeRuntime) : BridgeRuntime :=
  let b := latchStopProvenance { b with ioError := -eFault } .softwareFault .ioThreadException
  { b with
    controller := Vcu.transportFault b.controller
    softwareEstop := true
    running := false }

/-! ## The bridge as a machine -/

inductive ProfileEntry where
  | v1
  | v2
  | v3
  deriving DecidableEq

def configure (b : BridgeRuntime) (now : ℤ) (entry : ProfileEntry)
    (config : RuntimeControlConfig) : RuntimeControlIssue × ℕ × BridgeRuntime :=
  match entry with
  | .v1 => configureRuntimeControlV1 b now config
  | .v2 => configureRuntimeControlV2 b now config
  | .v3 => configureRuntimeControlV3 b now config

inductive Event where
  | configure (now : ℤ) (entry : ProfileEntry) (config : RuntimeControlConfig)
  | clearRuntimeControl
  | setStopContext (context : StopContextArguments)
  | emergencyStop
  | requestParallelHandshake (now : ℤ)
  | requestPark
  | applyState (now : ℤ) (arguments : ApplyArguments)
  | failControlApply
  | ingest (now : ℤ) (frame : CanFrame)
  | receiveFailure (receiveResult : ℤ)
  | tick (now : ℤ) (chassis : ChassisOutcome)
  | sendResult (failed : Bool)
  | ioException
  | beginClose
  | finishClose

inductive Reply where
  | done
  | accepted (result : Bool)
  | configured (issue : RuntimeControlIssue) (appliedRevision : ℕ)
  | applied (result : ApplyResult)
  | transmitted (batch : Option CommandBatch)
  deriving DecidableEq

/-- The clock reading an event carries. -/
def Event.clock? : Event → Option ℤ
  | .configure now _ _ => some now
  | .requestParallelHandshake now => some now
  | .applyState now _ => some now
  | .ingest now _ => some now
  | .tick now _ => some now
  | _ => none

def Event.tickTime? : Event → Option ℤ
  | .tick now _ => some now
  | _ => none

def Reply.batch? : Reply → Option CommandBatch
  | .transmitted batch => batch
  | _ => none

/-- What the io thread does needs the thread. -/
def whileRunning (b : BridgeRuntime) (next : BridgeRuntime) : BridgeRuntime :=
  if b.running then next else b

def respond (b : BridgeRuntime) : Event → Reply × BridgeRuntime
  | .configure now entry config =>
    let r := configure b now entry config
    (.configured r.1 r.2.1, r.2.2)
  | .clearRuntimeControl => (.done, clearRuntimeControl b)
  | .setStopContext context => let r := setStopContext b context; (.accepted r.1, r.2)
  | .emergencyStop => let r := emergencyStop b; (.accepted r.1, r.2)
  | .requestParallelHandshake now =>
    let r := requestParallelHandshake b now
    (.accepted r.1, r.2)
  | .requestPark => let r := requestPark b; (.accepted r.1, r.2)
  | .applyState now arguments => let r := applyState b now arguments; (.applied r.1, r.2)
  | .failControlApply => (.done, failControlApply b)
  | .ingest now frame => (.done, ingest b now frame)
  | .receiveFailure receiveResult => (.done, whileRunning b (receiveFailure b receiveResult))
  | .tick now chassis => let r := tick b now chassis; (.transmitted r.1, r.2)
  | .sendResult failed => (.done, whileRunning b (sendResult b failed))
  | .ioException => (.done, whileRunning b (ioException b))
  | .beginClose => (.done, beginClose b)
  | .finishClose => (.done, finishClose b)

/-- The bridge from the state an entry point opened it in. -/
def machine (opened : BridgeRuntime) : Machine BridgeRuntime Event Reply := ⟨opened, respond⟩

/-- The clock never runs back over a history, the latest step first. -/
def ClockMonotone (h : History BridgeRuntime Event Reply) : Prop :=
  (h.filterMap fun st => st.event.clock?).Pairwise (· ≥ ·)

instance (h : History BridgeRuntime Event Reply) : Decidable (ClockMonotone h) :=
  inferInstanceAs (Decidable (List.Pairwise _ _))

/-- The bench hook `update_feedback` ingests one frame after the other. -/
def feedbackEvents (now : ℤ) (record : Vcu.FeedbackRecord) : List Event :=
  (Vcu.injectedFrames record).map (.ingest now)

end MineTeleop.Bridge
