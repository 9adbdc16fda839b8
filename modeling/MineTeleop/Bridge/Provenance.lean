import MineTeleop.Bridge.Traction
import MineTeleop.Library.FirstCause

/-!
# Stop provenance

The bridge records why it stops: the first cause since the last clear, unless the physical switch
takes its place.  Causes come from every side of the bridge, and the same one is raised again on
every tick while it lasts; a handshake and an ended soft stop clear the record.

Proved here:

* `tells_prepareTick`, `informs_respond`: what one event does to the record;
* `stop_provenance`: in every run the record holds the first cause since the last clear, and the
  sequence counts the causes it has held.

The telemetry names the cause while it reports a stop, and after every tick.
-/

namespace MineTeleop.Bridge

open Runs Runs.Machine Causes

/-! ## The causes an event raises -/

/-- A physical emergency takes the place of any other cause. -/
def Urgent (cause : StopContext) : Prop := cause.source = .physicalEmergency

instance : DecidablePred Urgent := fun _ => inferInstanceAs (Decidable (_ = _))

/-- A cause without a source or a reason is an unspecified one. -/
def namedCause (source : StopSource) (reason : StopReason) : StopContext :=
  if source = .none ∨ reason = .none then ⟨.unknown, .legacyUnspecified⟩ else ⟨source, reason⟩

abbrev Notices := List (Notice StopContext)

def raisedIf (p : Prop) [Decidable p] (source : StopSource) (reason : StopReason) : Notices :=
  if p then [.raised (namedCause source reason)] else []

def clearedIf (p : Prop) [Decidable p] : Notices := if p then [.cleared] else []

/-- A stop from outside has the cause that was announced, else its own. -/
def consumedIf (p : Prop) [Decidable p] (b : BridgeRuntime) (defaultSource : StopSource)
    (defaultReason : StopReason) : Notices :=
  let context := (consumeStopContext b defaultSource defaultReason).1
  raisedIf p context.source context.reason

/-- ChassisControl fails, or the controller rejects the composed command. -/
def commandNotices (b : BridgeRuntime) (v : IntentView) (chassis : ChassisOutcome) : Notices :=
  let fault := raisedIf True .softwareFault .chassisControlFault
  match chassis with
  | .rejected => fault
  | .raised => fault
  | .controls wheels =>
    match commandFromChassisControl v.intent.gear wheels with
    | none => fault
    | some generated =>
      raisedIf (AcceptsIntent b.controller.state ∧
          (Vcu.setCommand b.controller (composeCommand b v generated)).1 = false)
        .softwareFault .controlCommandInvalid

def latchNotices (b : BridgeRuntime) (v : IntentView) : Notices :=
  let reported := reportPhysicalEmergency b v
  let still := checkArmingMotion reported v
  let slow := checkHardOverspeed still v
  raisedIf (v.physicalEmergencyLatched = true) .physicalEmergency .physicalEmergencySwitch ++
    (raisedIf (ArmingMotion reported v) .softwareFault .armingMotion ++
      (raisedIf (SpeedAboveCeiling still v) .softwareFault .hardOverspeed ++
        clearedIf (SoftStopClears slow v)))

def updateNotices (b : BridgeRuntime) (now : ℤ) (dtSeconds : ℚ) (chassis : ChassisOutcome) :
    Notices :=
  if b.chassisControlFaultLatched then []
  else
    let v := intentView b now
    let settled := settleLatches b v now
    let regulated := regulateSpeed settled v now dtSeconds
    let limited :=
      limitTraction regulated.2 (TractionPidActive settled v now) regulated.1 dtSeconds
    latchNotices b v ++ commandNotices limited v chassis

def guardNotices (b : BridgeRuntime) (now : ℤ) : Notices :=
  let clocked := { b with lastControlTick := some now }
  raisedIf (RetainedFeedbackTimeout clocked now ∨ FirstArmingFeedbackTimeout clocked now)
      .watchdog .feedbackTimeout ++
    raisedIf (WatchdogExpired (checkFeedbackTimeout clocked now) now)
      .watchdog .controlApplyTimeout

/-- Behind the controller's tick. -/
def settleNotices (b : BridgeRuntime) (stateBefore : Vcu.State) : Notices :=
  raisedIf (b.controller.handshakeRevoked = true ∧ b.handshakeRevokedReported = false)
      .softwareFault .handshakeRevoked ++
    raisedIf ((reportRevocation b).controller.state = .fault ∧ stateBefore ≠ .fault)
      .softwareFault .vcuStateFault

def tickNotices (b : BridgeRuntime) (now : ℤ) (chassis : ChassisOutcome) : Notices :=
  if b.running then
    guardNotices b now ++
      (updateNotices (guarded b now) now (controlDtSeconds b now) chassis ++
        settleNotices (ticked b now chassis) b.controller.state)
  else []

def parkNotices (b : BridgeRuntime) : Notices :=
  consumedIf (b.running = true) b .driverPage .vcuHandshakeDisconnect

def applyNotices (b : BridgeRuntime) (a : ApplyArguments) : Notices :=
  match a.checked? with
  | none => raisedIf True .softwareFault .controlApplyFailed
  | some checked => if checked.gear = 4 then parkNotices b else []

/-- The causes that an event raises and clears, in the order of the calls. -/
def eventNotices (b : BridgeRuntime) : Event → Notices
  | .emergencyStop => consumedIf (b.running = true) b .unknown .legacyUnspecified
  | .requestParallelHandshake now => clearedIf ((requestParallelHandshake b now).1 = true)
  | .requestPark => parkNotices b
  | .applyState _ arguments => applyNotices b arguments
  | .failControlApply => raisedIf True .softwareFault .controlApplyFailed
  | .ingest _ frame =>
    raisedIf ((Vcu.ingest b.controller frame).1 = true ∧
        (Vcu.ingest b.controller frame).2.physicalEmergencyLatched = true)
      .physicalEmergency .physicalEmergencySwitch
  | .receiveFailure _ => raisedIf (b.running = true) .softwareFault .canReceiveFailed
  | .tick now chassis => tickNotices b now chassis
  | .sendResult failed =>
    raisedIf (b.running = true ∧ failed = true ∧ b.consecutiveSendFailures + 1 = 3)
      .softwareFault .canSendFailed
  | .ioException => raisedIf (b.running = true) .softwareFault .ioThreadException
  | .beginClose => consumedIf (b.running = true) b .session .sessionLost
  | _ => []

/-- The causes of a history, the latest first. -/
def notices : History BridgeRuntime Event Reply → Notices
  | [] => []
  | st :: past => (eventNotices st.before st.event).reverse ++ notices past

/-! ## The law -/

def stopRecord (b : BridgeRuntime) : Record StopContext :=
  { cause := if b.stopSource = .none then none else some ⟨b.stopSource, b.stopReason⟩
    sequence := b.stopSequence }

/-- The telemetry names the cause of the record. -/
def NamesCause (b : BridgeRuntime) : Prop :=
  b.telemetry.stopSource = b.stopSource ∧ b.telemetry.stopReason = b.stopReason

structure ProvenanceLaw (h : History BridgeRuntime Event Reply) (b : BridgeRuntime) : Prop where
  cause : (stopRecord b).cause = first Urgent (sinceClear (notices h))
  sequence : b.stopSequence = leads Urgent (notices h)
  paired : b.stopSource = .none ↔ b.stopReason = .none
  source_of_estop : b.softwareEstop = true → b.stopSource ≠ .none
  counted : b.telemetry.stopSequence = b.stopSequence
  reported : b.telemetry.estop = true → NamesCause b
  ticked : ∀ st past, h = st :: past → st.before.running = true → st.event.tickTime?.isSome →
    NamesCause b

/-! ## What a stage does to the record -/

/-- The fields that the record and its report are made of. -/
structure ReportView where
  source : StopSource
  reason : StopReason
  sequence : ℕ
  estop : Bool
  telemetryEstop : Bool
  telemetrySource : StopSource
  telemetryReason : StopReason
  telemetrySequence : ℕ

def reportView (b : BridgeRuntime) : ReportView :=
  { source := b.stopSource
    reason := b.stopReason
    sequence := b.stopSequence
    estop := b.softwareEstop
    telemetryEstop := b.telemetry.estop
    telemetrySource := b.telemetry.stopSource
    telemetryReason := b.telemetry.stopReason
    telemetrySequence := b.telemetry.stopSequence }

/-- The record and the telemetry fit together. -/
structure Consistent (b : BridgeRuntime) : Prop where
  paired : b.stopSource = .none ↔ b.stopReason = .none
  counted : b.telemetry.stopSequence = b.stopSequence
  reported : b.telemetry.estop = true → NamesCause b

/-- A recorded cause has raised the software stop. -/
def Backed (b : BridgeRuntime) : Prop := b.stopSource ≠ .none → b.softwareEstop = true

/-- From `b` to `b'` the record takes the notices. -/
structure Informs (ns : Notices) (b b' : BridgeRuntime) : Prop where
  record : stopRecord b' = ns.foldl (fun r notice => r.take Urgent notice) (stopRecord b)
  consistent : Consistent b → Consistent b'

/-- The same, with a software stop for every cause. -/
structure Tells (ns : Notices) (b b' : BridgeRuntime) : Prop extends Informs ns b b' where
  backed : Backed b → Backed b'

theorem Tells.same {b b' : BridgeRuntime} (h : reportView b' = reportView b) : Tells [] b b' := by
  obtain ⟨hsource, hreason, hsequence, hestop, htestop, htsource, htreason, htsequence⟩ :
      b'.stopSource = b.stopSource ∧ b'.stopReason = b.stopReason ∧
      b'.stopSequence = b.stopSequence ∧ b'.softwareEstop = b.softwareEstop ∧
      b'.telemetry.estop = b.telemetry.estop ∧
      b'.telemetry.stopSource = b.telemetry.stopSource ∧
      b'.telemetry.stopReason = b.telemetry.stopReason ∧
      b'.telemetry.stopSequence = b.telemetry.stopSequence := by
    simpa [reportView] using h
  refine ⟨⟨?_, fun hc => ⟨?_, ?_, fun ht => ?_⟩⟩, fun hb hs => ?_⟩
  · simp [stopRecord, hsource, hreason, hsequence]
  · rw [hsource, hreason]
    exact hc.paired
  · rw [htsequence, hsequence]
    exact hc.counted
  · obtain ⟨hs, hr⟩ := hc.reported (htestop.symm.trans ht)
    exact ⟨htsource.trans (hs.trans hsource.symm), htreason.trans (hr.trans hreason.symm)⟩
  · exact hestop.trans (hb (hsource ▸ hs))

theorem Informs.same {b b' : BridgeRuntime} (h : reportView b' = reportView b) :
    Informs [] b b' := (Tells.same h).toInforms

theorem Informs.trans {ns ms : Notices} {b b' b'' : BridgeRuntime} (h : Informs ns b b')
    (h' : Informs ms b' b'') : Informs (ns ++ ms) b b'' :=
  ⟨by rw [List.foldl_append, ← h.record, h'.record], fun hc => h'.consistent (h.consistent hc)⟩

theorem Tells.trans {ns ms : Notices} {b b' b'' : BridgeRuntime} (h : Tells ns b b')
    (h' : Tells ms b' b'') : Tells (ns ++ ms) b b'' :=
  ⟨h.toInforms.trans h'.toInforms, fun hb => h'.backed (h.backed hb)⟩

theorem Informs.of_view {ns : Notices} {b b' c : BridgeRuntime} (h : Informs ns b b')
    (hview : reportView c = reportView b') : Informs ns b c := by
  have htold := h.trans (.same hview)
  rwa [List.append_nil] at htold

theorem Tells.of_view {ns : Notices} {b b' c : BridgeRuntime} (h : Tells ns b b')
    (hview : reportView c = reportView b') : Tells ns b c := by
  have htold := h.trans (Tells.same hview)
  rwa [List.append_nil] at htold

theorem namedCause_source (source : StopSource) (reason : StopReason) :
    (namedCause source reason).source ≠ .none := by
  unfold namedCause
  split
  · exact fun h => StopSource.noConfusion h
  · rename_i hnamed
    exact fun h => hnamed (.inl h)

theorem namedCause_reason (source : StopSource) (reason : StopReason) :
    (namedCause source reason).reason ≠ .none := by
  unfold namedCause
  split
  · exact fun h => StopReason.noConfusion h
  · rename_i hnamed
    exact fun h => hnamed (.inr h)

/-- The record gives way to a cause when the bridge does. -/
theorem stopRecord_yields (b : BridgeRuntime) (cause : StopContext) :
    (stopRecord b).Yields Urgent cause ↔ Supersedes b cause.source := by
  unfold Record.Yields Supersedes stopRecord
  by_cases hnone : b.stopSource = .none <;> simp [hnone, Urgent]

theorem latchStopProvenance_superseded {b : BridgeRuntime} {source : StopSource}
    {reason : StopReason} (h : Supersedes b (namedCause source reason).source) :
    reportView (latchStopProvenance b source reason) =
      { reportView b with
        source := (namedCause source reason).source
        reason := (namedCause source reason).reason
        sequence := b.stopSequence + 1
        telemetrySource := (namedCause source reason).source
        telemetryReason := (namedCause source reason).reason
        telemetrySequence := b.stopSequence + 1 } := by
  unfold namedCause at h
  simp only [reportView, latchStopProvenance, namedCause, if_pos h]

theorem latchStopProvenance_kept {b : BridgeRuntime} {source : StopSource}
    {reason : StopReason} (h : ¬Supersedes b (namedCause source reason).source) :
    reportView (latchStopProvenance b source reason) = reportView b := by
  unfold namedCause at h
  simp only [reportView, latchStopProvenance, if_neg h]

theorem informs_latchStopProvenance (b : BridgeRuntime) (source : StopSource)
    (reason : StopReason) :
    Informs [.raised (namedCause source reason)] b (latchStopProvenance b source reason) := by
  have hyields := stopRecord_yields b (namedCause source reason)
  by_cases hsuper : Supersedes b (namedCause source reason).source
  · have hview := latchStopProvenance_superseded hsuper
    generalize latchStopProvenance b source reason = b' at hview
    simp only [reportView, ReportView.mk.injEq] at hview
    obtain ⟨hsource, hreason, hsequence, -, -, htsource, htreason, htsequence⟩ := hview
    refine ⟨?_, fun _ => ⟨?_, htsequence.trans hsequence.symm, fun _ => ?_⟩⟩
    · rw [List.foldl_cons, List.foldl_nil, Record.take, if_pos (hyields.mpr hsuper)]
      simp only [stopRecord, hsource, hreason, hsequence,
        if_neg (namedCause_source source reason)]
    · rw [hsource, hreason]
      exact iff_of_false (namedCause_source source reason) (namedCause_reason source reason)
    · exact ⟨htsource.trans hsource.symm, htreason.trans hreason.symm⟩
  · have hkept := (Tells.same (latchStopProvenance_kept hsuper)).toInforms
    refine ⟨?_, hkept.consistent⟩
    rw [List.foldl_cons, List.foldl_nil, Record.take, if_neg (hsuper ∘ hyields.mp)]
    exact hkept.record

/-- The software stop does not belong to the record. -/
theorem Informs.of_stopped {ns : Notices} {b b' c : BridgeRuntime} (h : Informs ns b b')
    (hview : reportView c = { reportView b' with estop := true }) : Tells ns b c := by
  have hstopped : Informs [] b' c := by
    have hsame := (Tells.same (b := { b' with softwareEstop := true }) hview).toInforms
    exact ⟨hsame.record, fun hc => hsame.consistent ⟨hc.paired, hc.counted, hc.reported⟩⟩
  have htold := h.trans hstopped
  rw [List.append_nil] at htold
  exact ⟨htold, fun _ _ => congrArg ReportView.estop hview⟩

/-- A stage that raises a cause and the software stop with it. -/
theorem tells_stopped {b c : BridgeRuntime} {source : StopSource} {reason : StopReason}
    (hview : reportView c = { reportView (latchStopProvenance b source reason) with
      estop := true }) : Tells [.raised (namedCause source reason)] b c :=
  (informs_latchStopProvenance b source reason).of_stopped hview

theorem informs_clearStopProvenance (b : BridgeRuntime) :
    Informs [.cleared] b (clearStopProvenance b) := by
  refine ⟨rfl, fun hc => ?_⟩
  have hpaired := hc.paired
  have hcounted := hc.counted
  have hreported := hc.reported
  by_cases hnone : b.stopSource = .none
  · refine ⟨?_, ?_, ?_⟩ <;> simp_all [clearStopProvenance, NamesCause]
  · refine ⟨?_, ?_, ?_⟩ <;> simp_all [clearStopProvenance, NamesCause]

/-- A cleared record needs no software stop. -/
theorem tells_cleared {b c : BridgeRuntime} (estop : Bool)
    (hview : reportView c = { reportView (clearStopProvenance b) with estop := estop }) :
    Tells [.cleared] b c := by
  have hcleared : Informs [] (clearStopProvenance b) c := by
    have hsame :=
      (Tells.same (b := { clearStopProvenance b with softwareEstop := estop }) hview).toInforms
    exact ⟨hsame.record, fun hc => hsame.consistent ⟨hc.paired, hc.counted, hc.reported⟩⟩
  exact ⟨(informs_clearStopProvenance b).trans hcleared,
    fun _ hs => absurd (congrArg ReportView.source hview) hs⟩

/-- The telemetry of an iteration names the cause, once the software stop backs it. -/
theorem tells_updateFeedback (b : BridgeRuntime) : Tells [] b (updateFeedback b) := by
  refine ⟨⟨rfl, fun hc => ⟨hc.paired, rfl, fun ht => ?_⟩⟩, fun hb => hb⟩
  have hestop : (b.softwareEstop || decide (b.controller.feedback.emergencySwitch ≠ 0)) = true :=
    ht
  exact ⟨if_pos hestop, if_pos hestop⟩

theorem updateFeedback_names {b : BridgeRuntime} (hc : Consistent b) (hb : Backed b) :
    NamesCause (updateFeedback b) := by
  by_cases hnone : b.stopSource = .none
  · have hreason := hc.paired.mp hnone
    constructor <;> simp [updateFeedback, hnone, hreason]
  · have hestop := hb hnone
    constructor <;> simp [updateFeedback, hestop]

/-! ## The stages of an iteration -/

section
variable (b : BridgeRuntime) (v : IntentView) (now : ℤ)

theorem tells_raisedIf {c : BridgeRuntime} {p : Prop} [Decidable p] {source : StopSource}
    {reason : StopReason}
    (hraised : p → reportView c = { reportView (latchStopProvenance b source reason) with
      estop := true })
    (hsame : ¬p → reportView c = reportView b) : Tells (raisedIf p source reason) b c := by
  unfold raisedIf
  split
  · rename_i hp
    exact tells_stopped (hraised hp)
  · rename_i hp
    exact .same (hsame hp)

theorem raisedIf_neg {p : Prop} [Decidable p] (h : ¬p) (source : StopSource)
    (reason : StopReason) : raisedIf p source reason = [] := if_neg h

theorem raisedIf_congr {p q : Prop} [Decidable p] [Decidable q] (h : p ↔ q) (source : StopSource)
    (reason : StopReason) : raisedIf p source reason = raisedIf q source reason := by
  unfold raisedIf
  simp only [h]

theorem tells_checkFeedbackTimeout :
    Tells (raisedIf (RetainedFeedbackTimeout b now ∨ FirstArmingFeedbackTimeout b now)
      .watchdog .feedbackTimeout) b (checkFeedbackTimeout b now) := by
  refine tells_raisedIf b (fun hp => ?_) fun hp => ?_
  · rw [checkFeedbackTimeout, if_pos hp]
    rfl
  · rw [checkFeedbackTimeout, if_neg hp]

theorem tells_checkControlWatchdog :
    Tells (raisedIf (WatchdogExpired b now) .watchdog .controlApplyTimeout) b
      (checkControlWatchdog b now) := by
  refine tells_raisedIf b (fun hp => ?_) fun hp => ?_
  · rw [checkControlWatchdog, if_pos hp]
    rfl
  · rw [checkControlWatchdog, if_neg hp]

theorem tells_reportPhysicalEmergency :
    Tells (raisedIf (v.physicalEmergencyLatched = true) .physicalEmergency
      .physicalEmergencySwitch) b (reportPhysicalEmergency b v) := by
  refine tells_raisedIf b (fun hp => ?_) fun hp => ?_
  · rw [reportPhysicalEmergency, if_pos hp]
    extract_lets latched reset
    split <;> rfl
  · rw [reportPhysicalEmergency, if_neg hp]

theorem tells_checkArmingMotion :
    Tells (raisedIf (ArmingMotion b v) .softwareFault .armingMotion) b
      (checkArmingMotion b v) := by
  refine tells_raisedIf b (fun hp => ?_) fun hp => ?_
  · rw [checkArmingMotion, if_pos hp]
    rfl
  · rw [checkArmingMotion, if_neg hp]

theorem tells_checkHardOverspeed :
    Tells (raisedIf (SpeedAboveCeiling b v) .softwareFault .hardOverspeed) b
      (checkHardOverspeed b v) := by
  refine tells_raisedIf b (fun hp => ?_) fun hp => ?_
  · rw [checkHardOverspeed, if_pos hp]
    rfl
  · rw [checkHardOverspeed, if_neg hp]

theorem tells_clearSoftStop : Tells (clearedIf (SoftStopClears b v)) b (clearSoftStop b v) := by
  unfold clearedIf clearSoftStop
  split
  · exact tells_cleared false rfl
  · exact .same rfl

theorem tells_settleLatches : Tells (latchNotices b v) b (settleLatches b v now) :=
  ((tells_reportPhysicalEmergency b v).trans
    ((tells_checkArmingMotion _ v).trans
      ((tells_checkHardOverspeed _ v).trans (tells_clearSoftStop _ v)))).of_view rfl

theorem regulateSpeed_reportView (dt : ℚ) :
    reportView (regulateSpeed b v now dt).2 = reportView b := by
  unfold regulateSpeed
  split
  · rfl
  · split <;> rfl

theorem limitTraction_reportView (active : Prop) [Decidable active] (output dt : ℚ) :
    reportView (limitTraction b active output dt) = reportView b := by
  unfold limitTraction
  split <;> rfl

theorem tells_submitCommand (command : Vcu.Command) :
    Tells (raisedIf (AcceptsIntent b.controller.state ∧
        (Vcu.setCommand b.controller command).1 = false) .softwareFault .controlCommandInvalid)
      b (submitCommand b command) := by
  refine tells_raisedIf b (fun hp => ?_) fun hp => ?_
  · rw [submitCommand, if_pos hp.1]
    simp only [hp.2, Bool.false_eq_true, if_false]
    rfl
  · unfold submitCommand
    split
    · rename_i haccepts
      have haccepted : (Vcu.setCommand b.controller command).1 = true := by
        by_contra hno
        exact hp ⟨haccepts, by simpa using hno⟩
      simp only [haccepted, if_true]
      rfl
    · rfl

theorem tells_latchChassisControlFault :
    Tells (raisedIf True .softwareFault .chassisControlFault) b (latchChassisControlFault b) :=
  tells_raisedIf b (fun _ => rfl) fun hp => absurd trivial hp

theorem tells_commandChassis (chassis : ChassisOutcome) :
    Tells (commandNotices b v chassis) b (commandChassis b v chassis) := by
  cases chassis with
  | rejected => exact tells_latchChassisControlFault b
  | raised => exact tells_latchChassisControlFault b
  | controls wheels =>
    unfold commandNotices commandChassis
    cases hgen : commandFromChassisControl v.intent.gear wheels with
    | none =>
      simp only [hgen]
      exact tells_latchChassisControlFault b
    | some generated =>
      simp only [hgen]
      exact (tells_submitCommand b (composeCommand b v generated)).of_view rfl

/-- A latched ChassisControl fault raises no cause again. -/
theorem tells_holdChassisControlFault : Tells [] b (holdChassisControlFault b) :=
  ((⟨rfl, fun hc => ⟨hc.paired, hc.counted, hc.reported⟩⟩ : Informs [] b b)).of_stopped rfl

theorem tells_updateCommandFromIntent (dt : ℚ) (chassis : ChassisOutcome) :
    Tells (updateNotices b now dt chassis) b (updateCommandFromIntent b now dt chassis) := by
  unfold updateNotices updateCommandFromIntent
  split
  · exact tells_holdChassisControlFault b
  · extract_lets view settled regulated limited
    refine (tells_settleLatches b view now).trans ?_
    have hlimited : Tells [] settled limited := by
      refine .same ?_
      exact (limitTraction_reportView _ _ _ dt).trans
        (regulateSpeed_reportView settled view now dt)
    have hcommanded := hlimited.trans (tells_commandChassis limited view chassis)
    rwa [List.nil_append] at hcommanded

theorem tells_guarded : Tells (guardNotices b now) b (guarded b now) := by
  have hclocked : Tells [] b { b with lastControlTick := some now } := .same rfl
  have hguarded := hclocked.trans ((tells_checkFeedbackTimeout _ now).trans
    (tells_checkControlWatchdog (checkFeedbackTimeout _ now) now))
  rwa [List.nil_append] at hguarded

theorem tells_prepareTick (chassis : ChassisOutcome) :
    Tells (guardNotices b now ++ updateNotices (guarded b now) now (controlDtSeconds b now) chassis)
      b (prepareTick b now chassis) := by
  rw [prepareTick_eq]
  exact (tells_guarded b now).trans (tells_updateCommandFromIntent _ now _ chassis)

theorem tells_reportRevocation :
    Tells (raisedIf (b.controller.handshakeRevoked = true ∧ b.handshakeRevokedReported = false)
      .softwareFault .handshakeRevoked) b (reportRevocation b) := by
  refine tells_raisedIf b (fun hp => ?_) fun hp => ?_
  · rw [reportRevocation, if_pos hp]
    rfl
  · rw [reportRevocation, if_neg hp]

theorem tells_reportFault (stateBefore : Vcu.State) :
    Tells (raisedIf (b.controller.state = .fault ∧ stateBefore ≠ .fault) .softwareFault
      .vcuStateFault) b (reportFault b stateBefore) := by
  refine tells_raisedIf b (fun hp => ?_) fun hp => ?_
  · rw [reportFault, if_pos hp]
    rfl
  · rw [reportFault, if_neg hp]

theorem latchSessionReady_reportView :
    reportView (latchSessionReady b now) = reportView b := by
  unfold latchSessionReady
  split
  · rfl
  · split <;> rfl

theorem armFeedbackDeadline_reportView :
    reportView (armFeedbackDeadline b now) = reportView b := by
  unfold armFeedbackDeadline
  split <;> rfl

end

/-! ## One event -/

/-- A recorded cause has raised the software stop, or waits for the tick that will. -/
def Covered (b : BridgeRuntime) : Prop :=
  b.stopSource ≠ .none → b.softwareEstop = true ∨ b.controller.physicalEmergencyLatched = true

theorem Backed.covered {b : BridgeRuntime} (h : Backed b) : Covered b := fun hs => .inl (h hs)

theorem backed_prepareTick {b : BridgeRuntime} (hb : Covered b) (now : ℤ)
    (chassis : ChassisOutcome) : Backed (prepareTick b now chassis) := by
  by_cases hphysical : b.controller.physicalEmergencyLatched = true
  · have hguarded : (guarded b now).controller.physicalEmergencyLatched = true :=
      (commands_guarded b now).keeps.2.1.trans hphysical
    exact fun _ => updateCommandFromIntent_estop now (controlDtSeconds b now) chassis hguarded
  · exact (tells_prepareTick b now chassis).backed fun hs => (hb hs).resolve_right hphysical

/-- A tick of the running bridge: behind it the telemetry names the cause. -/
theorem informs_tick {b : BridgeRuntime} (hrun : b.running = true) (now : ℤ)
    (chassis : ChassisOutcome) :
    Informs (tickNotices b now chassis) b (tick b now chassis).2 ∧
      (Covered b → Backed (tick b now chassis).2) ∧
      (Consistent b → Covered b → NamesCause (tick b now chassis).2) := by
  rw [tickNotices, if_pos hrun, tick_running hrun, ← List.append_assoc]
  have hprepared := tells_prepareTick b now chassis
  have hticked := hprepared.of_view (c := ticked b now chassis) rfl
  have hreported := hticked.trans
    ((tells_reportRevocation _).trans (tells_reportFault _ b.controller.state))
  have hsettled := hreported.of_view
    ((armFeedbackDeadline_reportView _ now).trans (latchSessionReady_reportView _ now))
  -- The causes behind the controller's tick are all backed, so the telemetry reports them.
  have hbacked (hb : Covered b) := backed_prepareTick hb now chassis
  have hsettledBacked (hb : Covered b) :
      Backed (armFeedbackDeadline (latchSessionReady (reportFault (reportRevocation
        (ticked b now chassis)) b.controller.state) now) now) := by
    have hback := ((tells_reportRevocation (ticked b now chassis)).trans
      (tells_reportFault _ b.controller.state)).of_view
        ((armFeedbackDeadline_reportView _ now).trans (latchSessionReady_reportView _ now))
    exact hback.backed (hbacked hb)
  refine ⟨?_, fun hb => (tells_updateFeedback _).backed (hsettledBacked hb), fun hc hb => ?_⟩
  · have htold := hsettled.trans (tells_updateFeedback _)
    rw [List.append_nil] at htold
    exact htold.toInforms
  · exact updateFeedback_names (hsettled.consistent hc) (hsettledBacked hb)

section
variable (b : BridgeRuntime) (now : ℤ)

theorem informs_consumed {c : BridgeRuntime} {p : Prop} [Decidable p] {source : StopSource}
    {reason : StopReason}
    (hstopped : p → reportView c =
      { reportView (latchStopProvenance (consumeStopContext b source reason).2
          (consumeStopContext b source reason).1.source
          (consumeStopContext b source reason).1.reason) with estop := true })
    (hsame : ¬p → reportView c = reportView b) : Informs (consumedIf p b source reason) b c := by
  have hconsumed : Tells [] b (consumeStopContext b source reason).2 := .same rfl
  have htold := hconsumed.trans (tells_raisedIf _ hstopped hsame)
  exact htold.toInforms

theorem informs_emergencyStop :
    Informs (consumedIf (b.running = true) b .unknown .legacyUnspecified) b
      (emergencyStop b).2 := by
  refine informs_consumed b (fun hrun => ?_) fun hstop => ?_
  · rw [emergencyStop, if_neg (by simp [hrun])]
    rfl
  · rw [emergencyStop, if_pos (by simpa using hstop)]

theorem informs_requestPark : Informs (parkNotices b) b (requestPark b).2 := by
  refine informs_consumed b (fun hrun => ?_) fun hstop => ?_
  · rw [requestPark, if_neg (by simp [hrun])]
    rfl
  · rw [requestPark, if_pos (by simpa using hstop)]

theorem informs_beginClose :
    Informs (consumedIf (b.running = true) b .session .sessionLost) b (beginClose b) := by
  refine informs_consumed b (fun hrun => ?_) fun hstop => ?_
  · rw [beginClose, if_neg (by simp [hrun])]
    rfl
  · rw [beginClose, if_pos (by simpa using hstop)]

theorem informs_failControlApply :
    Informs (raisedIf True .softwareFault .controlApplyFailed) b (failControlApply b) :=
  (tells_raisedIf b (fun _ => rfl) fun hp => absurd trivial hp).toInforms

theorem storeIntent_reportView (a : IntentArguments) :
    reportView (storeIntent b now a).2 = reportView b := by
  unfold storeIntent
  split_ifs <;> rfl

theorem informs_applyState (a : ApplyArguments) :
    Informs (applyNotices b a) b (applyState b now a).2 := by
  cases hchecked : a.checked? with
  | none =>
    simp only [applyNotices, applyState, hchecked]
    exact informs_failControlApply b
  | some checked =>
    simp only [applyNotices, applyState, hchecked]
    split
    · exact informs_requestPark b
    · exact .same (storeIntent_reportView b now checked)

theorem installProfile_reportView (config : RuntimeControlConfig) (riseRate : ℚ)
    (parking : ℤ) : reportView (installProfile b now config riseRate parking) = reportView b := by
  cases b
  rfl

theorem configureRuntimeControl_reportView (config : RuntimeControlConfig) (expected : ℕ)
    (riseRate : Double) (parking : ℤ) :
    reportView (configureRuntimeControl b now config expected riseRate parking).2.2 =
      reportView b := by
  unfold configureRuntimeControl
  split
  · rfl
  split
  · rfl
  split
  · rfl
  split
  · rfl
  · extract_lets recovered
    have hrecovered : reportView recovered = reportView b := by
      unfold recovered
      split <;> rfl
    exact (installProfile_reportView recovered now config _ parking).trans hrecovered

theorem configure_reportView (entry : ProfileEntry) (config : RuntimeControlConfig) :
    reportView (configure b now entry config).2.2 = reportView b := by
  cases entry with
  | v1 => exact configureRuntimeControl_reportView b now config _ _ _
  | v2 => exact configureRuntimeControl_reportView b now config _ _ _
  | v3 =>
    simp only [configure, configureRuntimeControlV3]
    split
    · rfl
    · exact configureRuntimeControl_reportView b now config _ _ _

theorem informs_requestParallelHandshake :
    Informs (clearedIf ((requestParallelHandshake b now).1 = true)) b
      (requestParallelHandshake b now).2 := by
  unfold requestParallelHandshake
  split
  · exact .same rfl
  split
  · exact .same rfl
  · extract_lets recovered
    have hrecovered : reportView recovered = reportView b := by
      unfold recovered
      split <;> rfl
    have hrestarted : Tells [.cleared] recovered
        (restartSession { recovered with
          controller := (Vcu.requestParallelHandshake b.controller).2 }) :=
      tells_cleared false rfl
    exact ((Tells.same hrecovered).trans hrestarted).toInforms

theorem informs_recordFrame (frame : Vcu.CanFrame) :
    Informs (raisedIf (b.controller.physicalEmergencyLatched = true) .physicalEmergency
      .physicalEmergencySwitch) b (recordFrame b now frame) := by
  unfold recordFrame raisedIf
  extract_lets caught
  split
  · rename_i hphysical
    have hcaught : caught = latchStopProvenance b .physicalEmergency .physicalEmergencySwitch :=
      if_pos hphysical
    rw [hcaught]
    have hrecorded := ((informs_latchStopProvenance b .physicalEmergency
      .physicalEmergencySwitch).of_view
        (c := { latchStopProvenance b .physicalEmergency .physicalEmergencySwitch with
          lastSeen := Function.update (latchStopProvenance b .physicalEmergency
            .physicalEmergencySwitch).lastSeen frame.id (some now) }) rfl).trans
      (tells_updateFeedback _).toInforms
    rwa [List.append_nil] at hrecorded
  · rename_i hphysical
    have hcaught : caught = b := if_neg hphysical
    rw [hcaught]
    have hsame : Tells [] b
        { b with lastSeen := Function.update b.lastSeen frame.id (some now) } := .same rfl
    exact (hsame.trans (tells_updateFeedback _)).toInforms

theorem informs_ingest (frame : Vcu.CanFrame) :
    Informs (raisedIf ((Vcu.ingest b.controller frame).1 = true ∧
        (Vcu.ingest b.controller frame).2.physicalEmergencyLatched = true)
      .physicalEmergency .physicalEmergencySwitch) b (ingest b now frame) := by
  unfold ingest
  split
  rename_i accepted controller heq
  rw [heq]
  cases accepted with
  | false =>
    rw [raisedIf_neg fun h => Bool.noConfusion h.1]
    exact .same rfl
  | true =>
    rw [raisedIf_congr (and_iff_right rfl)]
    have hhanded : Informs [] b { b with controller := controller } := .same rfl
    have hrecorded := informs_recordFrame { b with controller := controller } now frame
    exact hhanded.trans hrecorded

theorem informs_sendResult (failed : Bool) :
    Informs (raisedIf (failed = true ∧ b.consecutiveSendFailures + 1 = 3) .softwareFault
      .canSendFailed) b (sendResult b failed) := by
  refine (tells_raisedIf b (fun hp => ?_) fun hp => ?_).toInforms
  · unfold sendResult
    extract_lets failures counted
    have hfailures : failures = 3 := (if_pos hp.1).trans hp.2
    rw [if_pos hfailures]
    rfl
  · unfold sendResult
    extract_lets failures counted
    rw [if_neg]
    · rfl
    · intro hfailures
      cases failed with
      | true => exact hp ⟨rfl, hfailures⟩
      | false =>
        have hzero : failures = 0 := rfl
        omega

end

/-- A call of the io thread that needs the thread. -/
theorem informs_whileRunning {b next : BridgeRuntime} {p : Prop} [Decidable p]
    {source : StopSource} {reason : StopReason} (h : Informs (raisedIf p source reason) b next) :
    Informs (raisedIf (b.running = true ∧ p) source reason) b (whileRunning b next) := by
  unfold whileRunning
  cases hrun : b.running with
  | true =>
    rw [raisedIf_congr (and_iff_right rfl)]
    exact h
  | false =>
    rw [raisedIf_neg fun h => Bool.noConfusion h.1]
    exact .same rfl

theorem informs_respond (b : BridgeRuntime) (e : Event) :
    Informs (eventNotices b e) b (respond b e).2 := by
  cases e with
  | configure now entry config =>
    exact .same (configure_reportView b now entry config)
  | clearRuntimeControl => exact .same rfl
  | setStopContext context =>
    simp only [respond, setStopContext]
    split
    · split <;> exact .same rfl
    · exact .same rfl
  | emergencyStop => exact informs_emergencyStop b
  | requestParallelHandshake now => exact informs_requestParallelHandshake b now
  | requestPark => exact informs_requestPark b
  | applyState now arguments => exact informs_applyState b now arguments
  | failControlApply => exact informs_failControlApply b
  | ingest now frame => exact informs_ingest b now frame
  | receiveFailure receiveResult =>
    have hfailed : Informs (raisedIf True .softwareFault .canReceiveFailed) b
        (receiveFailure b receiveResult) :=
      (tells_raisedIf b (fun _ => rfl) fun hp => absurd trivial hp).toInforms
    have htold := informs_whileRunning hfailed
    rwa [raisedIf_congr (and_iff_left trivial)] at htold
  | tick now chassis =>
    cases hrun : b.running with
    | true => exact (informs_tick hrun now chassis).1
    | false =>
      simp only [respond, tick, eventNotices, tickNotices, hrun, Bool.false_eq_true, if_false,
        if_true]
      exact .same rfl
  | sendResult failed => exact informs_whileRunning (informs_sendResult b failed)
  | ioException =>
    have hfailed : Informs (raisedIf True .softwareFault .ioThreadException) b (ioException b) :=
      (tells_raisedIf b (fun _ => rfl) fun hp => absurd trivial hp).toInforms
    have htold := informs_whileRunning hfailed
    rwa [raisedIf_congr (and_iff_left trivial)] at htold
  | beginClose => exact informs_beginClose b
  | finishClose =>
    simp only [respond, finishClose]
    split <;> exact .same rfl

/-- A cause without the software stop is the physical switch's, and its latch stays. -/
theorem CallCase.covered {b b' : BridgeRuntime} (h : CallCase b b') (hb : Covered b) :
    Covered b' := by
  cases h with
  | same _ hstop hstate hsession =>
    have hsource : b'.stopSource = b.stopSource := congrArg StopView.source hstop
    have hestop : b'.softwareEstop = b.softwareEstop := congrArg StopView.estop hstop
    have hphysical : b'.controller.physicalEmergencyLatched =
        b.controller.physicalEmergencyLatched := congrArg StopView.physical hstop
    unfold Covered
    rw [hsource, hestop, hphysical]
    exact hb
  | stopped _ he hs hp hr hsession => exact fun _ => .inl he
  | ingested now frame =>
    obtain ⟨hc, he, -⟩ :=
      recordFrame_frame { b with controller := (Vcu.ingest b.controller frame).2 } now frame
    unfold Covered
    rw [hc, he]
    rcases recordFrame_source { b with controller := (Vcu.ingest b.controller frame).2 } now
      frame with ⟨hphysical, -⟩ | ⟨-, hs⟩
    · exact fun _ => .inr hphysical
    · rw [hs]
      refine fun hsource => (hb hsource).imp id fun hphysical => ?_
      simp [Vcu.ingest_physicalEmergencyLatched, hphysical]
  | restarted recovered hsession haccepted =>
    have hview := (restartSession_view recovered haccepted).1
    exact fun hs => absurd (congrArg StopView.source hview) hs

theorem covered_respond {b : BridgeRuntime} (hb : Covered b) (e : Event) :
    Covered (respond b e).2 := by
  by_cases htick : ∃ now chassis, e = .tick now chassis
  · obtain ⟨now, chassis, rfl⟩ := htick
    cases hrun : b.running with
    | true => exact ((informs_tick hrun now chassis).2.1 hb).covered
    | false =>
      simp only [respond, tick, hrun, if_true]
      exact hb
  · exact (respond_cases b e fun now chassis heq => htick ⟨now, chassis, heq⟩).covered hb

/-! ## Runs -/

/-- An opened bridge has recorded nothing. -/
theorem Opened.unrecorded {b : BridgeRuntime} (h : Opened b) :
    reportView b = ⟨.none, .none, 0, false, false, .none, .none, 0⟩ := by
  have hbridge : ∀ env torque timeout speed physical brake,
      openBridge env torque timeout speed physical brake = .ok b →
      reportView b = ⟨.none, .none, 0, false, false, .none, .none, 0⟩ := by
    intro env torque timeout speed physical brake h
    unfold openBridge at h
    split at h
    · cases h
    split at h
    · cases h
    cases hseed : seedCommand env.emergencySeed with
    | error code => simp [hseed, bind, Except.bind] at h
    | ok seed =>
      cases hinitial : seedCommand env.initialSeed with
      | error code => simp [hseed, hinitial, bind, Except.bind] at h
      | ok initial =>
        simp only [hseed, hinitial, bind, Except.bind] at h
        split at h
        · cases h
        split at h
        · cases h
        split at h
        · cases h
        · cases h
          rfl
  obtain ⟨env, h | ⟨size, torque, h⟩ | ⟨config, h | h | h⟩⟩ := h
  · exact hbridge _ _ _ _ _ _ h
  · unfold openV1 at h
    split at h
    · cases h
    · exact hbridge _ _ _ _ _ _ h
  · unfold openV2 at h
    split at h
    · cases h
    · exact hbridge _ _ _ _ _ _ h
  all_goals
    simp only [openV3, openV4, openConfigured] at h
    split at h
    · cases h
    · exact hbridge _ _ _ _ _ _ h

variable {opened b : BridgeRuntime} {h : History BridgeRuntime Event Reply}

/-- What every step keeps between the history and the record. -/
structure Recorded (h : History BridgeRuntime Event Reply) (b : BridgeRuntime) : Prop where
  record : stopRecord b = after Urgent (notices h)
  consistent : Consistent b
  covered : Covered b

theorem recorded_opened (ho : Opened opened) : Recorded [] opened := by
  have hview := ho.unrecorded
  simp only [reportView, ReportView.mk.injEq] at hview
  obtain ⟨hsource, hreason, hsequence, -, htestop, -, -, htsequence⟩ := hview
  refine ⟨?_, ⟨?_, htsequence.trans hsequence.symm, fun ht => ?_⟩, fun hs => absurd hsource hs⟩
  · simp [stopRecord, hsource, hsequence, notices, after]
  · exact iff_of_true hsource hreason
  · exact absurd (htestop.symm.trans ht) Bool.noConfusion

theorem recorded_step (hrecorded : Recorded h b) (e : Event) :
    Recorded ((machine opened).observe b e :: h) (respond b e).2 := by
  have htold := informs_respond b e
  refine ⟨?_, htold.consistent hrecorded.consistent, covered_respond hrecorded.covered e⟩
  rw [htold.record, hrecorded.record]
  exact (after_reverse_append (eventNotices b e) (notices h)).symm

theorem recorded_of_run (ho : Opened opened) (hr : Run (machine opened) h b) : Recorded h b :=
  Run.link (C := fun _ => True) (R := Recorded) (recorded_opened ho)
    (fun _ _ e _ hrecorded _ => recorded_step hrecorded e) hr (steps_true h)

/-- **Stop provenance**, in every run of an opened bridge. -/
theorem stop_provenance (ho : Opened opened) (hr : Run (machine opened) h b) :
    ProvenanceLaw h b := by
  have hrecorded := recorded_of_run ho hr
  refine
    { cause := by rw [hrecorded.record, after_cause]
      sequence := ?_
      paired := hrecorded.consistent.paired
      source_of_estop := (bridgeInvariant_of_run ho hr).stops.source_of_estop
      counted := hrecorded.consistent.counted
      reported := hrecorded.consistent.reported
      ticked := ?_ }
  · have hsequence : (stopRecord b).sequence = leads Urgent (notices h) := by
      rw [hrecorded.record, after_sequence]
    exact hsequence
  · rintro st past rfl hrun htick
    cases hr with
    | step e hpast =>
      have hbefore := recorded_of_run ho hpast
      cases e with
      | tick now chassis =>
        exact (informs_tick hrun now chassis).2.2 hbefore.consistent hbefore.covered
      | _ => exact Bool.noConfusion htick

/-- An announced operator stop, a failed apply, a tick, and the physical switch. -/
def stoppedEvents : List Event :=
  [.setStopContext { stopSource := 1, stopReason := 1 }, .emergencyStop, .failControlApply,
    tickAt 20, .ingest (ms 20) (Vcu.frameWith Vcu.Ids.wvcuVehicleStatus [(0, 1)]), tickAt 40]

/-- The physical switch takes the place of the operator, as the second cause of the run. -/
theorem stop_provenance_superseded :
    let run := (machine benchBridge).play stoppedEvents
    run.2.stopReason = .physicalEmergencySwitch ∧ run.2.stopSequence = 2 ∧
      (notices run.1).length = 4 ∧ ProvenanceLaw run.1 run.2 :=
  ⟨by decide +kernel, by decide +kernel, by decide +kernel,
    stop_provenance benchBridge_opened (Run.play _ _)⟩

end MineTeleop.Bridge
