import MineTeleop.Bridge.Traction

/-!
# The control watchdog

Once the session is Ready, intents that stop arriving should take the torque away after
`control_timeout_ms`.  The watchdog fires once and stays latched; a stored intent asks for the
soft stop to be cleared, and the request waits for fresh speed feedback.

Proved here:

* `watchdogLink_of_run`: the two instants the watchdog counts from are those of the history;
* `guarded_of_active`: no watchdog has fired in an iteration that regulates the speed;
* `overdue_carries_no_torque`: the law in every run in which no tick clears an overdue stop;
* `overdue_carries_no_torque_fails`: a clearing that waits for fresh speed outlives the deadline.
-/

namespace MineTeleop.Bridge

open Runs Runs.Machine
open Vcu (Controller CarriesTorque)

/-! ## The law -/

/-- The instant at which a tick makes the session ready. -/
def readyAt (st : Step BridgeRuntime Event Reply) : Option ℤ :=
  match st.event with
  | .tick now _ =>
    if st.before.sessionReadyLatched = false ∧ st.after.sessionReadyLatched = true then some now
    else none
  | _ => none

/-- The instant at which `apply_state` stores an intent. -/
def storedAt (st : Step BridgeRuntime Event Reply) : Option ℤ :=
  match st.event with
  | .applyState now arguments =>
    if st.output = .applied ⟨0, .none⟩ ∧ arguments.targetGear ≠ 4 then some now else none
  | _ => none

def becameReady (h : History BridgeRuntime Event Reply) : Option ℤ := h.findSome? readyAt

def lastStored (h : History BridgeRuntime Event Reply) : Option ℤ := h.findSome? storedAt

/-- The deadline after both instants has passed. -/
def Overdue (h : History BridgeRuntime Event Reply) (controlTimeoutMs now : ℤ) : Prop :=
  (∀ ready ∈ becameReady h, ready + controlTimeoutMs * nanosPerMilli ≤ now) ∧
  ∀ stored ∈ lastStored h, stored + controlTimeoutMs * nanosPerMilli ≤ now

/-- No torque in an overdue tick of a ready session. -/
def WatchdogLaw (st : Step BridgeRuntime Event Reply) (past : History BridgeRuntime Event Reply) :
    Prop :=
  ∀ now chassis batch, st.event = .tick now chassis → st.output = .transmitted (some batch) →
    st.before.sessionReadyLatched = true →
    speedSafetyActiveState st.before.controller.state = true →
    Overdue past st.before.controlTimeoutMs now → ¬CarriesTorque batch

/-- The deadline has passed by the bridge's own reference. -/
def ReferenceOverdue (b : BridgeRuntime) (now : ℤ) : Prop :=
  ∃ reference ∈ watchdogReference b, b.controlTimeoutMs ≤ milliseconds (now - reference)

/-- The stored intent asks for traction under an active profile. -/
def RequestsTraction (b : BridgeRuntime) : Prop :=
  b.runtimeControl.active = true ∧ b.latestIntentValid = true ∧
  0 < b.latestIntent.normalizedLongitudinal ∧ 0 < b.latestIntent.targetSpeedMps ∧
  (b.latestIntent.gear = 2 ∨ b.latestIntent.gear = 3)

/-- The tick finds the watchdog latched and overdue, and clears its stop for an intent that asks
for traction. -/
def ClearsOverdueStop (b : BridgeRuntime) (now : ℤ) : Prop :=
  b.controlWatchdogLatched = true ∧ ReferenceOverdue b now ∧
  SoftStopClears b (intentView b now) ∧ RequestsTraction b

def TickClearsOverdueStop (st : Step BridgeRuntime Event Reply) : Prop :=
  ∃ now ∈ st.event.tickTime?, ClearsOverdueStop st.before now

instance (b : BridgeRuntime) (now : ℤ) : Decidable (ReferenceOverdue b now) :=
  inferInstanceAs (Decidable (∃ _ ∈ _, _))
instance (b : BridgeRuntime) : Decidable (RequestsTraction b) :=
  inferInstanceAs (Decidable (_ ∧ _))
instance (b : BridgeRuntime) (now : ℤ) : Decidable (ClearsOverdueStop b now) :=
  inferInstanceAs (Decidable (_ ∧ _))
instance : DecidablePred TickClearsOverdueStop := fun _ =>
  inferInstanceAs (Decidable (∃ _ ∈ _, _))

/-! ## The two instants -/

structure ApplyView where
  lastSuccessfulApply : ℤ
  lastSuccessfulApplyValid : Bool

def applyView (b : BridgeRuntime) : ApplyView :=
  ⟨b.lastSuccessfulApply, b.lastSuccessfulApplyValid⟩

theorem applyView_withdraw (b : BridgeRuntime) :
    applyView (withdrawLatestTraction b) = applyView b := rfl

theorem applyView_holdRejectedGear (b : BridgeRuntime) (requestedLongitudinal : ℚ) :
    applyView (holdRejectedGear b requestedLongitudinal) = applyView b := rfl

theorem storeIntent_applyView (b : BridgeRuntime) (now : ℤ) (a : IntentArguments) :
    ((storeIntent b now a).1 = .none ∧ applyView (storeIntent b now a).2 = ⟨now, true⟩) ∨
      ((storeIntent b now a).1 ≠ .none ∧ applyView (storeIntent b now a).2 = applyView b) := by
  unfold storeIntent
  split_ifs
  · exact .inr ⟨fun h => ApplyIssue.noConfusion h, rfl⟩
  · exact .inr ⟨fun h => ApplyIssue.noConfusion h, applyView_withdraw b⟩
  · exact .inr ⟨fun h => ApplyIssue.noConfusion h, applyView_withdraw b⟩
  · exact .inr ⟨fun h => ApplyIssue.noConfusion h, applyView_withdraw b⟩
  · exact .inr ⟨fun h => ApplyIssue.noConfusion h, applyView_withdraw b⟩
  · exact .inr ⟨fun h => ApplyIssue.noConfusion h, applyView_holdRejectedGear b _⟩
  · exact .inr ⟨fun h => ApplyIssue.noConfusion h, applyView_holdRejectedGear _ _⟩
  · exact .inl ⟨rfl, rfl⟩

theorem requestPark_applyView (b : BridgeRuntime) :
    applyView (requestPark b).2 = applyView b := by
  unfold requestPark
  cases b
  split <;> rfl

theorem applyState_applyView (b : BridgeRuntime) (now : ℤ) (a : ApplyArguments) :
    ((applyState b now a).1 = ⟨0, .none⟩ ∧ a.targetGear ≠ 4 ∧
        applyView (applyState b now a).2 = ⟨now, true⟩) ∨
      (¬((applyState b now a).1 = ⟨0, .none⟩ ∧ a.targetGear ≠ 4) ∧
        applyView (applyState b now a).2 = applyView b) := by
  unfold applyState
  cases hchecked : a.checked? with
  | none =>
    refine .inr ⟨fun h => ApplyIssue.noConfusion (congrArg ApplyResult.issue h.1), ?_⟩
    cases b
    rfl
  | some checked =>
    have hgear : checked.gear = a.targetGear := by
      simp only [ApplyArguments.checked?, Option.bind_eq_bind, Option.bind_eq_some_iff] at hchecked
      obtain ⟨_, -, _, -, _, -, _, -, hsome⟩ := hchecked
      split at hsome
      · rw [← Option.some.inj hsome]
      · cases hsome
    simp only
    split
    · rename_i hpark
      exact .inr ⟨fun h => h.2 (hgear ▸ hpark), requestPark_applyView b⟩
    · rename_i hpark
      rcases storeIntent_applyView b now checked with ⟨hnone, hview⟩ | ⟨hissue, hview⟩
      · exact .inl ⟨by rw [hnone]; rfl, hgear ▸ hpark, hview⟩
      · refine .inr ⟨fun h => hissue ?_, hview⟩
        exact congrArg ApplyResult.issue h.1

theorem ingest_applyView (b : BridgeRuntime) (now : ℤ) (frame : Vcu.CanFrame) :
    applyView (ingest b now frame) = applyView b := by
  have hrecord : ∀ b : BridgeRuntime, applyView (recordFrame b now frame) = applyView b := by
    intro b
    unfold recordFrame
    cases b
    split <;> rfl
  unfold ingest
  split
  split
  · exact hrecord _
  · rfl

theorem sendResult_applyView (b : BridgeRuntime) (failed : Bool) :
    applyView (sendResult b failed) = applyView b := by
  unfold sendResult
  extract_lets failures counted
  cases b
  split <;> rfl

theorem whileRunning_applyView {b next : BridgeRuntime} (h : applyView next = applyView b) :
    applyView (whileRunning b next) = applyView b := by
  unfold whileRunning
  split
  · exact h
  · rfl

theorem settleTick_applyView (b : BridgeRuntime) (now : ℤ) (stateBefore : Vcu.State) :
    applyView (settleTick b now stateBefore) = applyView b := by
  have hrevocation : applyView (reportRevocation b) = applyView b := by
    unfold reportRevocation
    cases b
    split <;> rfl
  have hfault : ∀ b : BridgeRuntime, applyView (reportFault b stateBefore) = applyView b := by
    intro b
    unfold reportFault
    cases b
    split <;> rfl
  have hsession : ∀ b : BridgeRuntime, applyView (latchSessionReady b now) = applyView b := by
    intro b
    unfold latchSessionReady
    cases b
    split
    · rfl
    · split <;> rfl
  have hdeadline : ∀ b : BridgeRuntime,
      applyView (updateFeedback (armFeedbackDeadline b now)) = applyView b := by
    intro b
    unfold armFeedbackDeadline
    cases b
    split <;> rfl
  exact (hdeadline _).trans ((hsession _).trans ((hfault _).trans hrevocation))

theorem tick_applyView (b : BridgeRuntime) (now : ℤ) (chassis : ChassisOutcome) :
    applyView (tick b now chassis).2 = applyView b := by
  cases hrun : b.running with
  | false =>
    rw [tick, if_pos hrun]
  | true =>
    rw [tick_running hrun]
    obtain ⟨fault, hview, -⟩ := prepareTick_iterationView b now chassis
    have hlast : (prepareTick b now chassis).lastSuccessfulApply = b.lastSuccessfulApply :=
      congrArg IterationView.lastSuccessfulApply hview
    have hvalid : (prepareTick b now chassis).lastSuccessfulApplyValid =
        b.lastSuccessfulApplyValid := congrArg IterationView.lastSuccessfulApplyValid hview
    rw [settleTick_applyView]
    simp only [applyView, ticked, hlast, hvalid]

/-- Only `apply_state` moves the instant of the last stored intent, and a handshake forgets it. -/
theorem respond_applyView (b : BridgeRuntime) (e : Event)
    (he : ∀ now arguments, e ≠ .applyState now arguments) :
    applyView (respond b e).2 = applyView b ∨
      (respond b e).2.lastSuccessfulApplyValid = false := by
  cases e with
  | applyState now arguments => exact absurd rfl (he now arguments)
  | configure now entry config =>
    have hcontrol : ∀ expected riseRate parking, applyView
        (configureRuntimeControl b now config expected riseRate parking).2.2 = applyView b := by
      intro expected riseRate parking
      unfold configureRuntimeControl
      split
      · rfl
      split
      · rfl
      split
      · rfl
      split
      · rfl
      · cases b
        extract_lets recovered
        unfold recovered
        split <;> rfl
    refine .inl ?_
    cases entry with
    | v1 => exact hcontrol _ _ _
    | v2 => exact hcontrol _ _ _
    | v3 =>
      simp only [respond, configure, configureRuntimeControlV3]
      split
      · rfl
      · exact hcontrol _ _ _
  | clearRuntimeControl =>
    cases b
    exact .inl rfl
  | setStopContext context =>
    simp only [respond, setStopContext]
    cases b
    split
    · split <;> exact .inl rfl
    · exact .inl rfl
  | emergencyStop =>
    simp only [respond, emergencyStop]
    cases b
    split <;> exact .inl rfl
  | requestParallelHandshake now =>
    simp only [respond, requestParallelHandshake]
    split
    · exact .inl rfl
    · split
      · exact .inl rfl
      · exact .inr rfl
  | requestPark => exact .inl (requestPark_applyView b)
  | failControlApply =>
    cases b
    exact .inl rfl
  | ingest now frame => exact .inl (ingest_applyView b now frame)
  | receiveFailure receiveResult =>
    refine .inl (whileRunning_applyView ?_)
    cases b
    rfl
  | tick now chassis => exact .inl (tick_applyView b now chassis)
  | sendResult failed => exact .inl (whileRunning_applyView (sendResult_applyView b failed))
  | ioException =>
    refine .inl (whileRunning_applyView ?_)
    cases b
    rfl
  | beginClose =>
    simp only [respond, beginClose]
    cases b
    split <;> exact .inl rfl
  | finishClose =>
    simp only [respond, finishClose]
    cases b
    split <;> exact .inl rfl

/-- History and state agree on the two instants. -/
structure WatchdogLink (h : History BridgeRuntime Event Reply) (b : BridgeRuntime) : Prop where
  ready : b.sessionReadyLatched = true → becameReady h = some b.readySince
  stored : b.lastSuccessfulApplyValid = true → lastStored h = some b.lastSuccessfulApply

theorem becameReady_tick {h : History BridgeRuntime Event Reply} {b : BridgeRuntime}
    (hi : b.sessionReadyLatched = true → becameReady h = some b.readySince) (now : ℤ)
    (chassis : ChassisOutcome) (opened : BridgeRuntime)
    (hl : (tick b now chassis).2.sessionReadyLatched = true) :
    becameReady ((machine opened).observe b (.tick now chassis) :: h) =
      some (tick b now chassis).2.readySince := by
  cases hrun : b.running with
  | false =>
    have hsame : (tick b now chassis).2 = b := by rw [tick, if_pos hrun]
    rw [hsame] at hl ⊢
    have hnone : readyAt ((machine opened).observe b (.tick now chassis)) = none :=
      if_neg fun hb => absurd (hl.symm.trans hb.1) Bool.noConfusion
    rw [becameReady, List.findSome?_cons, hnone]
    exact hi hl
  | true =>
    obtain ⟨fault, hticked, -⟩ := ticked_session b now chassis
    have hsession := settleTick_session (ticked b now chassis) now b.controller.state
    have hsince := congrArg SessionView.readySince hsession
    have hlatched := congrArg SessionView.sessionReadyLatched hsession
    have hready : (ticked b now chassis).sessionReadyLatched = b.sessionReadyLatched :=
      congrArg SessionView.sessionReadyLatched hticked
    have hold : (ticked b now chassis).readySince = b.readySince :=
      congrArg SessionView.readySince hticked
    simp only [sessionView, hready, hold] at hsince hlatched
    rw [tick_running hrun] at hl ⊢
    simp only at hl ⊢
    by_cases hbecomes : BecomesReady (ticked b now chassis)
    · have hat : readyAt ((machine opened).observe b (.tick now chassis)) = some now := by
        refine if_pos ⟨hready.symm.trans hbecomes.1, ?_⟩
        simp only [Machine.observe, machine, respond, tick_running hrun]
        exact hl
      rw [becameReady, List.findSome?_cons, hat, hsince, if_pos hbecomes]
    · rw [hlatched, if_neg hbecomes] at hl
      split at hl
      · exact absurd hl Bool.noConfusion
      · have hnone : readyAt ((machine opened).observe b (.tick now chassis)) = none :=
          if_neg fun hb => absurd (hl.symm.trans hb.1) Bool.noConfusion
        rw [becameReady, List.findSome?_cons, hnone, hsince, if_neg hbecomes]
        exact hi hl

theorem readyAt_call {b : BridgeRuntime} {e : Event} (he : ∀ now chassis, e ≠ .tick now chassis)
    (opened : BridgeRuntime) : readyAt ((machine opened).observe b e) = none := by
  cases e with
  | tick now chassis => exact absurd rfl (he now chassis)
  | _ => rfl

theorem storedAt_call {b : BridgeRuntime} {e : Event}
    (he : ∀ now arguments, e ≠ .applyState now arguments) (opened : BridgeRuntime) :
    storedAt ((machine opened).observe b e) = none := by
  cases e with
  | applyState now arguments => exact absurd rfl (he now arguments)
  | _ => rfl

theorem becameReady_step {opened : BridgeRuntime} {h : History BridgeRuntime Event Reply}
    {b : BridgeRuntime} (hi : b.sessionReadyLatched = true → becameReady h = some b.readySince)
    (e : Event) (hl : (respond b e).2.sessionReadyLatched = true) :
    becameReady ((machine opened).observe b e :: h) = some (respond b e).2.readySince := by
  by_cases he : ∀ now chassis, e ≠ .tick now chassis
  · rw [becameReady, List.findSome?_cons, readyAt_call he]
    rcases (respond_cases b e he).session with hsession | ⟨hnot, -⟩
    · have hlatched : (respond b e).2.sessionReadyLatched = b.sessionReadyLatched :=
        congrArg SessionView.sessionReadyLatched hsession
      have hsince : (respond b e).2.readySince = b.readySince :=
        congrArg SessionView.readySince hsession
      rw [hsince]
      exact hi (hlatched ▸ hl)
    · exact absurd (hl.symm.trans hnot) Bool.noConfusion
  · push Not at he
    obtain ⟨now, chassis, rfl⟩ := he
    exact becameReady_tick hi now chassis opened hl

theorem lastStored_step {opened : BridgeRuntime} {h : History BridgeRuntime Event Reply}
    {b : BridgeRuntime}
    (hi : b.lastSuccessfulApplyValid = true → lastStored h = some b.lastSuccessfulApply)
    (e : Event) (hv : (respond b e).2.lastSuccessfulApplyValid = true) :
    lastStored ((machine opened).observe b e :: h) =
      some (respond b e).2.lastSuccessfulApply := by
  by_cases he : ∀ now arguments, e ≠ .applyState now arguments
  · rw [lastStored, List.findSome?_cons, storedAt_call he]
    rcases respond_applyView b e he with hview | hnot
    · have hlast : (respond b e).2.lastSuccessfulApply = b.lastSuccessfulApply :=
        congrArg ApplyView.lastSuccessfulApply hview
      have hvalid : (respond b e).2.lastSuccessfulApplyValid = b.lastSuccessfulApplyValid :=
        congrArg ApplyView.lastSuccessfulApplyValid hview
      rw [hlast]
      exact hi (hvalid ▸ hv)
    · exact absurd (hv.symm.trans hnot) Bool.noConfusion
  · push Not at he
    obtain ⟨now, arguments, rfl⟩ := he
    rcases applyState_applyView b now arguments with ⟨hreply, hgear, hview⟩ | ⟨hno, hview⟩
    · have hat : storedAt ((machine opened).observe b (.applyState now arguments)) = some now :=
        if_pos ⟨congrArg Reply.applied hreply, hgear⟩
      rw [lastStored, List.findSome?_cons, hat]
      exact congrArg some (congrArg ApplyView.lastSuccessfulApply hview).symm
    · have hat : storedAt ((machine opened).observe b (.applyState now arguments)) = none :=
        if_neg fun hs => hno ⟨Reply.applied.inj hs.1, hs.2⟩
      have hlast : (respond b (.applyState now arguments)).2.lastSuccessfulApply =
          b.lastSuccessfulApply := congrArg ApplyView.lastSuccessfulApply hview
      have hvalid : (respond b (.applyState now arguments)).2.lastSuccessfulApplyValid =
          b.lastSuccessfulApplyValid := congrArg ApplyView.lastSuccessfulApplyValid hview
      rw [lastStored, List.findSome?_cons, hat, hlast]
      exact hi (hvalid ▸ hv)

theorem watchdogLink_of_run {opened b : BridgeRuntime} {h : History BridgeRuntime Event Reply}
    (ho : Opened opened) (hr : Run (machine opened) h b) : WatchdogLink h b :=
  hr.link (C := fun _ => True) (R := fun h b => WatchdogLink h b)
    ⟨fun hl => absurd (hl.symm.trans ho.fresh.notReady) Bool.noConfusion,
      fun hv => absurd (hv.symm.trans ho.fresh.notStored) Bool.noConfusion⟩
    (fun _ _ e _ hi _ => ⟨becameReady_step hi.ready e, lastStored_step hi.stored e⟩)
    (steps_true h)

/-! ## An iteration that regulates the speed -/

/-- A software stop that is gone after the latches was cleared for a fresh intent. -/
theorem softStopClears_of_settled {b : BridgeRuntime} {v : IntentView} {now : ℤ}
    (hestop : b.softwareEstop = true) (hsettled : (settleLatches b v now).softwareEstop = false) :
    SoftStopClears b v := by
  rw [settleLatches_eq] at hsettled
  change (clearSoftStop (latched b v) v).softwareEstop = false at hsettled
  unfold clearSoftStop at hsettled
  split at hsettled
  · rename_i hclears
    have hreport : reportPhysicalEmergency b v = b := by
      rw [reportPhysicalEmergency, if_neg (by simp [hclears.2.1])]
    have hover := hclears.2.2.1
    rw [latched, hreport] at hclears hover
    -- Neither overspeed stage has tripped: it would have left its latch.
    have hmotion : ¬ArmingMotion b v := by
      intro hm
      rw [checkArmingMotion, if_pos hm] at hover
      unfold checkHardOverspeed at hover
      split at hover <;> exact Bool.noConfusion hover
    rw [checkArmingMotion, if_neg hmotion] at hclears hover
    have habove : ¬SpeedAboveCeiling b v := by
      intro ha
      rw [checkHardOverspeed, if_pos ha] at hover
      exact Bool.noConfusion hover
    rwa [checkHardOverspeed, if_neg habove] at hclears
  · -- Without a clearing the stop stays up.
    have hreport : (reportPhysicalEmergency b v).softwareEstop = true := by
      unfold reportPhysicalEmergency
      split
      · extract_lets latched reset
        split <;> rfl
      · exact hestop
    have hlatched : (latched b v).softwareEstop = true :=
      checkHardOverspeed_estop (checkArmingMotion_estop hreport)
    exact absurd (hlatched.symm.trans hsettled) Bool.noConfusion

theorem guarded_of_active {b : BridgeRuntime} {now : ℤ}
    (hactive : TractionPidActive (settledAt b now) (viewAt b now) now) :
    guarded b now = { b with lastControlTick := some now } ∧ ¬WatchdogExpired b now := by
  obtain ⟨-, -, -, -, -, hestop, -, -, -, hready, -⟩ := hactive
  have hguarded : (guarded b now).controller.state = .ready :=
    (commands_settleLatches (guarded b now) (viewAt b now) now).keeps.2.2.2 hready
  have hfeedback : checkFeedbackTimeout { b with lastControlTick := some now } now =
      { b with lastControlTick := some now } := by
    have hbefore := (commands_checkControlWatchdog
      (checkFeedbackTimeout { b with lastControlTick := some now } now) now).keeps.2.2.2 hguarded
    unfold checkFeedbackTimeout at hbefore ⊢
    split at hbefore
    · exact Vcu.State.noConfusion hbefore
    · rename_i hno
      rw [if_neg hno]
  have hexpired : ¬WatchdogExpired { b with lastControlTick := some now } now := by
    intro hexpired
    have hfired : (guarded b now).softwareEstop = true ∧
        (guarded b now).clearSoftStopRequested = false := by
      rw [guarded, hfeedback, checkControlWatchdog, if_pos hexpired]
      exact ⟨rfl, rfl⟩
    have hclears := softStopClears_of_settled hfired.1 hestop
    exact absurd (hclears.1.symm.trans hfired.2) Bool.noConfusion
  exact ⟨by rw [guarded, hfeedback, checkControlWatchdog, if_neg hexpired], hexpired⟩

/-! ## The deadline -/

theorem le_milliseconds {timeout nanos : ℤ} (h : timeout * nanosPerMilli ≤ nanos) :
    timeout ≤ milliseconds nanos := by
  unfold milliseconds nanosPerMilli at *
  rcases le_or_gt 0 nanos with hn | hn
  · rw [Int.tdiv_eq_ediv_of_nonneg hn]
    omega
  · have hsign : Int.sign 1000000 = 1 := rfl
    have hdiv := Int.tdiv_eq_ediv (a := nanos) (b := 1000000)
    split_ifs at hdiv <;> omega

/-- Overdue by the history is overdue by the bridge's reference. -/
theorem referenceOverdue_of_overdue {b : BridgeRuntime} {h : History BridgeRuntime Event Reply}
    (hi : BridgeInvariant b) (hlink : WatchdogLink h b) {now : ℤ}
    (hready : b.sessionReadyLatched = true) (hdue : Overdue h b.controlTimeoutMs now) :
    ReferenceOverdue b now := by
  have hvalid := hi.since_of_latched hready
  have hsince := hdue.1 b.readySince (hlink.ready hready)
  cases hstored : b.lastSuccessfulApplyValid with
  | false =>
    refine ⟨b.readySince, ?_, le_milliseconds (by omega)⟩
    simp [watchdogReference, hvalid, hstored]
  | true =>
    have hlast := hdue.2 b.lastSuccessfulApply (hlink.stored hstored)
    refine ⟨if b.readySince < b.lastSuccessfulApply then b.lastSuccessfulApply else b.readySince,
      ?_, le_milliseconds (by split <;> omega)⟩
    simp [watchdogReference, hvalid, hstored]

/-- An overdue watchdog that does not fire is latched already. -/
theorem latched_of_overdue {b : BridgeRuntime} (hi : BridgeInvariant b) {now : ℤ}
    (hready : b.sessionReadyLatched = true)
    (hstate : speedSafetyActiveState b.controller.state = true)
    (hdue : ReferenceOverdue b now) (hno : ¬WatchdogExpired b now) :
    b.controlWatchdogLatched = true := by
  by_contra hlatched
  obtain ⟨reference, hreference, helapsed⟩ := hdue
  refine hno ⟨by simp [hready, hstate], ?_, by simpa using hlatched, hi.timeout, ?_⟩
  · simp [Option.mem_def.mp hreference]
  · rw [Option.mem_def.mp hreference]
    exact helapsed.trans (le_max_right _ _)

/-- Torque in an overdue tick means that the tick cleared the watchdog's stop. -/
theorem clearsOverdueStop_of_torque {b : BridgeRuntime} {h : History BridgeRuntime Event Reply}
    (hi : BridgeInvariant b) (hlink : WatchdogLink h b) {now : ℤ} {chassis : ChassisOutcome}
    (hready : b.sessionReadyLatched = true)
    (hstate : speedSafetyActiveState b.controller.state = true)
    (hdue : Overdue h b.controlTimeoutMs now)
    (htorque : CarriesTorque (Vcu.commandBatch (ticked b now chassis).controller)) :
    ClearsOverdueStop b now := by
  obtain ⟨hactive, -⟩ := tick_traction hi now chassis htorque
  obtain ⟨hguarded, hno⟩ := guarded_of_active hactive
  have hreference := referenceOverdue_of_overdue hi hlink hready hdue
  have hlatched := latched_of_overdue hi hready hstate hreference hno
  have hestop : (guarded b now).softwareEstop = true := by
    rw [hguarded]
    exact hi.stops.estop_of_watchdog hlatched
  have hintent := viewAt_intent hactive.2.2.2.2.2.2.2.1
  have hclears : SoftStopClears (guarded b now) (viewAt b now) :=
    softStopClears_of_settled hestop hactive.2.2.2.2.2.1
  obtain ⟨-, hprofile, -, -, -, -, -, hpositive, hgear, -, -, -, htarget⟩ := hactive
  have hview : iterationView (settledAt b now) = iterationView b := by
    rw [settledAt, settleLatches_iterationView, guarded_iterationView]
  have hruntime : (settledAt b now).runtimeControl = b.runtimeControl :=
    congrArg IterationView.runtimeControl hview
  have hvalid : (guarded b now).latestIntentValid = true := by
    by_contra hinvalid
    have hdefault : (viewAt b now).intent = {} := if_neg hinvalid
    rw [hdefault] at hpositive
    exact absurd hpositive (lt_irrefl 0)
  rw [hintent] at hpositive hgear htarget
  rw [viewAt] at hclears
  rw [hguarded] at hclears hvalid hpositive hgear htarget
  exact ⟨hlatched, hreference, hclears, hruntime ▸ hprofile, hvalid, hpositive, htarget, hgear⟩

/-- **The control watchdog.** In every run of an opened bridge in which no tick clears an overdue
stop, an overdue tick of a ready session carries no torque. -/
theorem overdue_carries_no_torque {opened b : BridgeRuntime}
    {h : History BridgeRuntime Event Reply} (ho : Opened opened) (hr : Run (machine opened) h b)
    (hc : Steps (fun st => ¬TickClearsOverdueStop st) h) : Always WatchdogLaw h := by
  induction hr with
  | init => trivial
  | @step h b e hr ih =>
    refine ⟨?_, ih hc.2⟩
    rintro now chassis batch he hout hready hstate hdue htorque
    obtain rfl : e = .tick now chassis := he
    cases hrun : b.running with
    | false => simp [Machine.observe, machine, respond, tick, hrun] at hout
    | true =>
      simp only [Machine.observe, machine, respond, tick_running hrun, Reply.transmitted.injEq,
        Option.some.injEq] at hout
      subst hout
      exact hc.1 ⟨now, rfl, clearsOverdueStop_of_torque (bridgeInvariant_of_run ho hr)
        (watchdogLink_of_run ho hr) hready hstate hdue htorque⟩

/-! ## A stop cleared past its deadline -/

/-- An intent stored at 310 ms, after the watchdog has fired; the speed is reported again at
415 ms, past the deadline of that intent. -/
def overdueEvents : List Event :=
  armEvents ++ [220, 240, 260, 280, 300].map tickAt ++ [.applyState (ms 310) driveIntent] ++
    [320, 340, 360, 380, 400].map tickAt ++ [.ingest (ms 415) (Vcu.vehicleSpeedFrame 0)]

/-- The clearing outlives the deadline: the tick at 420 ms drives. -/
theorem overdue_carries_no_torque_fails :
    ¬∀ (opened b : BridgeRuntime) (h : History BridgeRuntime Event Reply), Opened opened →
      Run (machine opened) h b → ClockMonotone h → Always WatchdogLaw h := by
  intro hall
  have hmonotone :
      ClockMonotone ((machine benchBridge).play (overdueEvents ++ [tickAt 420])).1 := by
    decide +kernel
  have hlaw := hall benchBridge _ _ benchBridge_opened (Run.play _ _) hmonotone
  rw [Machine.play_concat] at hlaw
  let r := (machine benchBridge).play overdueEvents
  have hrun : r.2.running = true := by decide +kernel
  have hready : r.2.sessionReadyLatched = true := by decide +kernel
  have hstate : speedSafetyActiveState r.2.controller.state = true := by decide +kernel
  have hbecame : becameReady r.1 = some (ms 200) := by decide +kernel
  have hstored : lastStored r.1 = some (ms 310) := by decide +kernel
  have htimeout : r.2.controlTimeoutMs = 100 := by decide +kernel
  have hdue : Overdue r.1 r.2.controlTimeoutMs (ms 420) := by
    rw [Overdue, hbecame, hstored, htimeout]
    decide
  have htorque :
      CarriesTorque (Vcu.commandBatch (ticked r.2 (ms 420) coasting).controller) := by
    decide +kernel
  refine hlaw.1 (ms 420) coasting _ rfl ?_ hready hstate hdue htorque
  exact congrArg Reply.transmitted (congrArg Prod.fst (tick_running hrun (ms 420) coasting))

/-- Cut off at 300 ms, the watchdog takes the torque away. -/
theorem overdue_carries_no_torque_cutOff :
    let run := (machine benchBridge).play (armEvents ++ [220, 240, 260, 280, 300, 320].map tickAt)
    run.2.controlWatchdogLatched = true ∧ (∃ st ∈ run.1, EmitsTorque st) ∧
      Always WatchdogLaw run.1 :=
  ⟨by decide +kernel, by decide +kernel,
    overdue_carries_no_torque benchBridge_opened (Run.play _ _) (by decide +kernel)⟩

end MineTeleop.Bridge
