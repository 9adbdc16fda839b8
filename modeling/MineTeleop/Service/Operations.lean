import MineTeleop.Service.Moves

/-!
# Every operation is a path of moves

Whatever the adapter answers or throws, an operation of the service only makes the moves that its
event allows: `operation_moves`.  The lemmas on the way say, operation by operation, what is known
of the service where it returns.
-/

namespace MineTeleop.Service

open Bridge (StopContext)
open Programs
open Runs

variable {σ : Type}

/-! ## The operations as paths of moves -/

section
variable {adapter : VehicleAdapter σ} (start : VehicleControlService) (e : Event) {w : World σ}

omit start e in
theorem clearSessionProfile_ensures :
    Ensures (clearSessionProfile adapter) w
      (fun _ w' =>
        w' = (w.withService VehicleControlService.revoked).after adapter .clearRuntimeControlProfile)
      fun _ _ => False := by
  unfold clearSessionProfile
  rw [ensures_bind, ensures_modifyService, ensures_tryCatch]
  exact ensures_call (fun _ _ => rfl) fun _ _ => rfl

theorem clearSessionProfile_moves :
    Ensures (clearSessionProfile adapter) w
      (fun _ w' => Moves adapter start e w w' ∧ w'.service = w.service.revoked)
      fun _ _ => False := by
  refine clearSessionProfile_ensures.mono ?_ fun _ _ h => h
  rintro _ w' rfl
  exact ⟨.one .revokes, rfl⟩

theorem refreshAdapterSafeStopState_moves :
    Ensures (refreshAdapterSafeStopState adapter) w
      (fun observed w' => Moves adapter start e w w' ∧
        (observed = false ∧ w'.service = w.service ∨
          observed = true ∧
            (w'.service = { w.service with adapterSafeStopActive := true }.revoked ∨
              w'.service = { w.service with adapterSafeStopActive := false } ∧
                StopRead w'.trace)))
      fun _ _ => False := by
  unfold refreshAdapterSafeStopState
  rw [ensures_tryCatch, ensures_bind]
  have hfirst : Moves adapter start e w (w.after adapter .readTelemetry) :=
    .one (.asks .readTelemetry trivial nofun)
  have hsecond := hfirst.next (.asks .vcuHandshakeStatus trivial nofun)
  refine ensures_call (fun telemetry htelemetry => ?_) fun _ _ => ⟨hfirst, .inl ⟨rfl, rfl⟩⟩
  rw [ensures_bind]
  refine ensures_call (fun handshake hhandshake => ?_) fun _ _ => ⟨hsecond, .inl ⟨rfl, rfl⟩⟩
  rw [ensures_bind, ensures_modifyService]
  cases hactive : telemetry.estop || handshake.disarming with
  | true =>
    rw [if_pos rfl, ensures_bind]
    refine (clearSessionProfile_moves start e).mono ?_ fun _ _ h => h.elim
    rintro _ w' ⟨hmoves, hservice⟩
    exact ⟨(hsecond.next (.flags true)).trans hmoves, .inr ⟨rfl, .inl hservice⟩⟩
  | false =>
    rw [if_neg (by simp)]
    obtain ⟨hestop, hdisarming⟩ := Bool.or_eq_false_iff.mp hactive
    refine ⟨hsecond.next (.flags false), .inr ⟨rfl, .inr ⟨rfl, ?_, ?_⟩⟩⟩
    · exact ⟨telemetry, _, List.mem_cons_of_mem _ (World.mem_after htelemetry), hestop⟩
    · exact ⟨handshake, _, World.mem_after hhandshake, hdisarming⟩

theorem pollFeedbackFails_moves :
    Ensures (pollFeedbackFails adapter) w
      (fun failed w' => Moves adapter start e w w' ∧ w'.service = w.service ∧
        (failed = false → ∃ polled s, .called .pollFeedback (.ok polled) s ∈ w'.trace))
      fun _ _ => False := by
  have hmoves : Moves adapter start e w (w.after adapter .pollFeedback) :=
    .one (.asks .pollFeedback trivial nofun)
  unfold pollFeedbackFails
  rw [ensures_tryCatch, ensures_bind]
  refine ensures_call (fun polled hpolled => ?_) fun _ _ => ?_
  · exact ⟨hmoves, rfl, fun _ => ⟨polled, _, World.mem_after hpolled⟩⟩
  · exact ⟨hmoves, rfl, fun h => by cases h⟩

/-- The watchdog revokes the session before it touches the adapter. -/
theorem evaluateControlWatchdog_moves (t : ℤ)
    (he : e = .tick t ∨ ∃ command, e = .receiveCommand command t) :
    Ensures (evaluateControlWatchdog adapter t) w
      (fun _ w' => Moves adapter start e w w' ∧
        w'.service =
          if (w.service.safety.tick t).state ∈ [.timeoutBrake, .estop, .fault] then
            { w.service with safety := w.service.safety.tick t }.revoked
          else { w.service with safety := w.service.safety.tick t })
      fun _ w' => Moves adapter start e w w' := by
  have hticked : Moves adapter start e w (w.moved (·.tick t)) := .one (.ticks t he)
  unfold evaluateControlWatchdog
  rw [ensures_bind, ensures_moveSafety, ensures_bind, ensures_getService]
  refine Ensures.ite (fun hstop => ?_) fun hfree => ?_
  · extract_lets stopAdapter
    have hstopped : ∀ w₁ : World σ, Moves adapter start e w w₁ →
        w₁.service.safety = w.service.safety.tick t →
        (w₁.service.activeSessionProfile = none ∨ w₁.service.safety.state = .degraded) →
        Ensures (stopAdapter ()) w₁
          (fun _ w' => Moves adapter start e w w' ∧ w'.service = w₁.service)
          fun _ w' => Moves adapter start e w w' := by
      intro w₁ hmoves hsafety hsession
      show Ensures (getService >>= _) _ _ _
      rw [ensures_bind, ensures_getService]
      refine Ensures.ite (fun _ => ?_) fun _ => ⟨hmoves, rfl⟩
      have hstops := hmoves.next (.stops (w₁.service.safety.currentOutput t)
        (watchdogStopContext w₁.service.safety.state)
        (stopOutput_currentOutput (by rw [hsafety]; exact hstop) t)
        (hsession.imp_right .inl))
      exact ensures_call (fun _ _ => ⟨hstops, rfl⟩) fun _ _ => hstops
    change (w.service.safety.tick t).state ∈ _ at hstop
    refine Ensures.ite (fun hhard => ?_) fun hdegraded => ?_
    · change (w.service.safety.tick t).state ≠ _ at hhard
      rw [ensures_bind]
      refine (clearSessionProfile_moves start e).mono ?_ fun _ _ h => h.elim
      rintro _ w₁ ⟨hmoves, hservice⟩
      refine (hstopped w₁ (hticked.trans hmoves) (by rw [hservice]; rfl)
        (.inl (by rw [hservice]; rfl))).mono ?_ fun _ _ h => h
      rintro _ w' ⟨hmoves', hservice'⟩
      refine ⟨hmoves', ?_⟩
      rw [if_pos (by simpa [hhard] using hstop), hservice', hservice]
      rfl
    · change ¬(w.service.safety.tick t).state ≠ _ at hdegraded
      refine (hstopped _ hticked rfl (.inr (not_not.mp hdegraded))).mono ?_ fun _ _ h => h
      rintro _ w' ⟨hmoves', hservice'⟩
      refine ⟨hmoves', ?_⟩
      rw [if_neg (by simp [not_not.mp hdegraded]), hservice']
      rfl
  · change ¬(w.service.safety.tick t).state ∈ _ at hfree
    refine ⟨hticked, ?_⟩
    rw [if_neg (fun h => hfree (List.mem_cons_of_mem _ h))]
    rfl

/-- A safe stop that is followed by the revocation, unless it throws. -/
theorem stopAndRevoke_moves {α : Type} (output : ControlOutput) (context : StopContext)
    (rest : Operation σ α) {Q : α → World σ → Prop} {R : Failure → World σ → Prop}
    (houtput : StopOutput w.service output)
    (hthrows : ∀ failure w', Ended adapter start e w w' → R failure w')
    (hrest : ∀ w', Moves adapter start e w w' → w'.service.activeSessionProfile = none →
      Ensures rest w' Q R) :
    Ensures (do
        call adapter (.applySafeStop output context)
        clearSessionProfile adapter
        rest) w Q R := by
  rw [ensures_bind]
  refine ensures_call (fun _ hok => ?_) fun failure herror => ?_
  · rw [ensures_bind]
    refine clearSessionProfile_ensures.mono ?_ fun _ _ h => h.elim
    rintro _ w' rfl
    exact hrest _ (.one (.stopsFirst output context houtput hok)) rfl
  · exact hthrows failure _ (.inr ⟨w, output, context, failure, .refl w, houtput, herror, rfl⟩)

theorem failControl_moves
    (he : ∃ command t, e = .receiveCommand command t ∧ command.estop = false) (t : ℤ)
    (stopReason : Bridge.StopReason) (reason : String) (warnings : List String) :
    Ensures (failControl adapter t stopReason reason warnings) w
      (fun _ w' => Moves adapter start e w w')
      fun _ w' => Ended adapter start e w w' := by
  have hfaults : Moves adapter start e w (w.moved SafetyStateMachine.markFault) :=
    .one (.faults (.inr he))
  unfold failControl
  rw [ensures_bind, ensures_moveSafety, ensures_bind, ensures_getService]
  refine stopAndRevoke_moves start e _ _ _ (stopOutput_latched (.inr rfl) t) ?_ ?_
  · exact fun _ w' hended => hended.behind hfaults
  · exact fun w' hmoves _ => hfaults.trans hmoves

end

/-! ## Receiving a command -/

section
variable {adapter : VehicleAdapter σ} (start : VehicleControlService) {w : World σ}
  {command : ControlCommand} {t : ℤ}

theorem latchStop_moves {checked remembered : DriverCommand} (result : ReceiveResult)
    (haccepts : start.Accepts command t checked) (hestop : remembered.estop = checked.estop)
    (h : checked.estop = true ∨ w.service.safety.state.Latched) :
    Ensures (latchStop adapter result remembered t) w
      (fun _ w' => Moves adapter start (.receiveCommand command t) w w')
      fun _ w' => Moves adapter start (.receiveCommand command t) w w' := by
  have hlatches : Moves adapter start (.receiveCommand command t) w
      (w.moved (·.onValidCommand remembered t)) := .one (.latches haccepts hestop h)
  have hlatched : (w.service.safety.onValidCommand remembered t).state.Latched := by
    refine SafetyStateMachine.onValidCommand_latched ?_ t
    rwa [hestop]
  unfold latchStop
  rw [ensures_bind, ensures_moveSafety, ensures_bind, ensures_getService]
  extract_lets latched done stopAdapter
  have hstopped : ∀ w₁ : World σ, Moves adapter start (.receiveCommand command t) w w₁ →
      w₁.service.activeSessionProfile = none →
      Ensures (stopAdapter ()) w₁
        (fun _ w' => Moves adapter start (.receiveCommand command t) w w')
        fun _ w' => Moves adapter start (.receiveCommand command t) w w' := by
    intro w₁ hmoves hsession
    obtain ⟨hthrottle, hbrake⟩ := SafetyStateMachine.currentOutput_latched hlatched t
    have hstraight := SafetyStateMachine.currentOutput_straight hlatched t
    have hstops := fun context =>
      hmoves.next (.stops _ context ⟨hthrottle, .inl ⟨hbrake, hstraight⟩⟩ (.inl hsession))
    show Ensures (call adapter _ >>= _) _ _ _
    rw [ensures_bind]
    exact ensures_call (fun _ _ => hstops _) fun _ _ => hstops _
  have hlatched : latched := hlatched
  rw [if_pos (.inr hlatched), if_pos hlatched, ensures_bind]
  refine (clearSessionProfile_moves start (.receiveCommand command t)).mono ?_ fun _ _ h => h.elim
  rintro _ w₁ ⟨hmoves, hservice⟩
  exact hstopped w₁ (hlatches.trans hmoves) (by rw [hservice]; rfl)

theorem applyCommand_moves {c remembered : DriverCommand} (result : ReceiveResult)
    (hguard : ControlGuard start command t w c) (hremembered : remembered.estop = false) :
    Ensures (applyCommand adapter result c remembered t) w
      (fun _ w' => Moves adapter start (.receiveCommand command t) w w')
      fun _ w' => Moves adapter start (.receiveCommand command t) w w' := by
  have hcontrols : Moves adapter start (.receiveCommand command t) w
      (w.after adapter (.applyControl c)) := .one (.controls hguard)
  unfold applyCommand
  rw [ensures_bind, ensures_tryCatch, ensures_bind]
  refine ensures_call (fun _ hok => ?_) fun failure _ => ?_
  · exact hcontrols.next (.activates hguard hremembered hok)
  · cases failure <;> exact hcontrols

/-- The brake is the only thing that the remembered command has of its own. -/
theorem safetyCommand_estop {s : VehicleControlService} {c remembered : DriverCommand}
    (h : safetyCommand s c = .ok remembered) : remembered.estop = c.estop := by
  unfold safetyCommand at h
  split at h
  · rw [Except.ok.inj h]
  · split at h
    · rw [Except.ok.inj h]
    · obtain ⟨brake, -, h⟩ := bind_ok h
      rw [← Except.ok.inj h]

theorem commitCommand_moves {checked c : DriverCommand} (result : ReceiveResult)
    (haccepts : start.Accepts command t checked) (hestop : c.estop = checked.estop)
    (hguard : checked.estop = false → ¬w.service.safety.state.Latched →
      ControlGuard start command t w c) :
    Ensures (commitCommand adapter result c t) w
      (fun _ w' => Moves adapter start (.receiveCommand command t) w w')
      fun _ w' => Moves adapter start (.receiveCommand command t) w w' := by
  unfold commitCommand
  rw [ensures_bind, ensures_getService]
  cases hremembered : safetyCommand w.service c with
  | error message => exact .refl w
  | ok remembered =>
    have hsame := safetyCommand_estop hremembered
    refine Ensures.ite (fun happly => ?_) fun hlatch => ?_
    · obtain ⟨hordinary, hnotEstop, hnotFault⟩ := happly
      refine applyCommand_moves start result (hguard (hestop ▸ hordinary) ?_) (hsame.trans hordinary)
      rintro (h | h)
      · exact hnotEstop h
      · exact hnotFault h
    · refine latchStop_moves start result haccepts (hsame.trans hestop) ?_
      by_contra hnone
      push Not at hnone
      refine hlatch ⟨?_, fun h => hnone.2 (.inl h), fun h => hnone.2 (.inr h)⟩
      rw [hestop]
      exact Bool.eq_false_iff.mpr hnone.1

/-- What `receive_command` knows once the receiver has accepted a command. -/
structure Admission (start : VehicleControlService) (command : ControlCommand) (t : ℤ)
    (w : World σ) (checked : DriverCommand) : Prop where
  accepted : start.Accepts command t checked
  started : w.service.started = true
  estop : checked.estop = command.estop
  latched : checked.estop = true →
    w.service.safety.state = .estop ∧ w.service.activeSessionProfile = none
  watchdog : checked.estop = false → w.service.safety = start.safety.tick t
  revoked : checked.estop = false →
    w.service.safety.state ∈ [.timeoutBrake, .estop, .fault] →
    w.service.activeSessionProfile = none

/-- An ordinary command reaches the adapter once it is known to own no stop and to be fed. -/
theorem commitObserved_moves {checked : DriverCommand} (result : ReceiveResult) {w₂ : World σ}
    (hadmission : Admission start command t w checked) (hordinary : checked.estop = false)
    (hprofile : w.service.activeSessionProfile ≠ none)
    (hneutral : w.service.safety.state = .degraded → checked.Neutral)
    (hservice : w₂.service = { w.service with adapterSafeStopActive := false })
    (hread : StopRead w₂.trace)
    (hfeedback : w.service.requireFeedbackBeforeControl = true → FeedbackRead w₂.trace) :
    Ensures (commitCommand adapter result (w.service.limitCommand checked).1 t) w₂
      (fun _ w' => Moves adapter start (.receiveCommand command t) w₂ w')
      fun _ w' => Moves adapter start (.receiveCommand command t) w₂ w' := by
  refine commitCommand_moves start result hadmission.accepted rfl fun _ hnotLatched => ?_
  rw [hservice] at hnotLatched
  have hnotTimeout : w.service.safety.state ≠ .timeoutBrake := by
    intro htimeout
    exact hprofile (hadmission.revoked hordinary (by simp [htimeout]))
  refine
    { started := ?_
      accepted := ⟨checked, hadmission.accepted, hordinary, ?_, ?_⟩
      profile := ?_
      watchdog := ?_
      state := ?_
      stopRead := hread
      feedbackRead := ?_ }
  all_goals rw [hservice]
  · exact hadmission.started
  · rfl
  · exact hneutral
  · exact hprofile
  · exact hadmission.watchdog hordinary
  · simpa [hnotTimeout, SafetyState.Latched] using hnotLatched
  · exact hfeedback

/-- The rest of an ordinary command, behind the refresh. -/
theorem observeOrdinary_moves {checked : DriverCommand} (result : ReceiveResult)
    (hadmission : Admission start command t w checked) (hordinary : checked.estop = false)
    (hprofile : w.service.activeSessionProfile ≠ none)
    (hneutral : w.service.safety.state = .degraded → checked.Neutral) :
    Ensures (observeAdapter adapter result (w.service.limitCommand checked).1 t) w
      (fun _ w' => Moves adapter start (.receiveCommand command t) w w')
      fun _ w' => Ended adapter start (.receiveCommand command t) w w' := by
  have he : ∃ c t', Event.receiveCommand command t = .receiveCommand c t' ∧ c.estop = false :=
    ⟨command, t, rfl, hadmission.estop.symm.trans hordinary⟩
  have hlimited : (w.service.limitCommand checked).1.estop = false := hordinary
  unfold observeAdapter
  rw [hlimited, if_neg (by simp), ensures_bind]
  refine (pollFeedbackFails_moves start (.receiveCommand command t)).mono ?_ fun _ _ h => h.elim
  rintro failed w₁ ⟨hmoves₁, hsame, hpolled⟩
  rw [ensures_bind]
  refine (refreshAdapterSafeStopState_moves start (.receiveCommand command t)).mono ?_
    fun _ _ h => h.elim
  rintro observed w₂ ⟨hmoves₂, hobserved⟩
  have hmoves := hmoves₁.trans hmoves₂
  rw [ensures_bind, ensures_getService, if_neg (by simp)]
  rw [hsame] at hobserved
  refine Ensures.ite (fun _ => hmoves) fun hfree => Ensures.ite (fun _ => ?_) fun hseen =>
    Ensures.ite (fun _ => ?_) fun hpoll => ?_
  · exact (failControl_moves start _ he t _ _ _).mono (fun _ w' h => hmoves.trans h)
      fun _ w' h => h.behind hmoves
  · exact (failControl_moves start _ he t _ _ _).mono (fun _ w' h => hmoves.trans h)
      fun _ w' h => h.behind hmoves
  -- The adapter owns no stop, so the refresh has read one that is not active.
  obtain ⟨hservice, hread⟩ : w₂.service = { w.service with adapterSafeStopActive := false } ∧
      StopRead w₂.trace := by
    rcases hobserved with ⟨hunseen, -⟩ | ⟨-, hactive | hread⟩
    · exact absurd hunseen hseen
    · refine absurd ?_ hfree
      rw [hactive]
      rfl
    · exact hread
  have hrequire : w₂.service.requireFeedbackBeforeControl =
      w.service.requireFeedbackBeforeControl := by rw [hservice]
  extract_lets proceed
  refine Ensures.ite (fun hrequired => ?_) fun hoptional => ?_
  · have hasked : Moves adapter start (.receiveCommand command t) w₂
        (w₂.after adapter .feedbackReady) := .one (.asks .feedbackReady trivial nofun)
    rw [ensures_bind]
    refine ensures_call (fun ready hready => ?_) fun _ _ => (hmoves.trans hasked).ended
    cases ready with
    | true =>
      obtain ⟨polled, s, hmem⟩ := hpolled (by simpa [hrequired] using hpoll)
      refine (commitObserved_moves start result hadmission hordinary hprofile hneutral
        (show (w₂.after adapter .feedbackReady).service = _ from hservice) ?_
        fun _ => ⟨?_, _, World.mem_after hready⟩).mono
        (fun _ w' h => (hmoves.trans hasked).trans h)
        fun _ w' h => ((hmoves.trans hasked).trans h).ended
      · obtain ⟨⟨telemetry, s, hmem, hclear⟩, handshake, s', hmem', hclear'⟩ := hread
        exact ⟨⟨telemetry, s, hasked.trace_subset hmem, hclear⟩, handshake, s',
          hasked.trace_subset hmem', hclear'⟩
      · exact ⟨polled, s, hasked.trace_subset (hmoves₂.trace_subset hmem)⟩
    | false =>
      exact stopAndRevoke_moves start _ neutralStop _ _ ⟨rfl, .inl ⟨rfl, rfl⟩⟩
        (fun _ w' h => h.behind (hmoves.trans hasked)) fun w' h _ => (hmoves.trans hasked).trans h
  · refine (commitObserved_moves start result hadmission hordinary hprofile hneutral hservice
      hread fun hrequired => absurd (hrequire.trans hrequired) hoptional).mono
      (fun _ w' h => hmoves.trans h) fun _ w' h => (hmoves.trans h).ended

theorem observeEstop_moves {checked : DriverCommand} (result : ReceiveResult)
    (hadmission : Admission start command t w checked) (hestop : checked.estop = true) :
    Ensures (observeAdapter adapter result (w.service.limitCommand checked).1 t) w
      (fun _ w' => Moves adapter start (.receiveCommand command t) w w')
      fun _ w' => Moves adapter start (.receiveCommand command t) w w' := by
  have hlimited : (w.service.limitCommand checked).1.estop = true := hestop
  unfold observeAdapter
  rw [hlimited, if_pos rfl, ensures_bind, ensures_pure, ensures_bind]
  refine (refreshAdapterSafeStopState_moves start (.receiveCommand command t)).mono ?_
    fun _ _ h => h.elim
  rintro observed w₁ ⟨hmoves, -⟩
  rw [ensures_bind, ensures_getService, if_pos rfl]
  refine (commitCommand_moves start result hadmission.accepted
    (show (w.service.limitCommand checked).1.estop = checked.estop from rfl) ?_).mono
    (fun _ w' h => hmoves.trans h) fun _ w' h => hmoves.trans h
  intro hordinary
  rw [hestop] at hordinary
  cases hordinary

theorem handleAccepted_moves {checked : DriverCommand} (result : ReceiveResult)
    (hadmission : Admission start command t w checked) :
    Ensures (handleAccepted adapter result checked t) w
      (fun _ w' => Moves adapter start (.receiveCommand command t) w w')
      fun _ w' => Ended adapter start (.receiveCommand command t) w w' := by
  unfold handleAccepted
  rw [ensures_bind, ensures_getService]
  refine Ensures.ite (fun hnone => ?_) fun hprofile =>
    Ensures.ite (fun _ => .refl w) fun hneutral => ?_
  · extract_lets reject
    have hstops : Moves adapter start (.receiveCommand command t) w
        (w.after adapter (.applySafeStop neutralStop ⟨.softwareFault, .sessionProfileRequired⟩)) :=
      .one (.stops _ _ ⟨rfl, .inl ⟨rfl, rfl⟩⟩ (.inl hnone.2))
    refine Ensures.ite (fun _ => ?_) fun _ => .refl w
    rw [ensures_bind]
    exact ensures_call (fun _ _ => hstops) fun _ _ => hstops.ended
  · cases hestop : checked.estop with
    | true =>
      exact (observeEstop_moves start _ hadmission hestop).mono (fun _ _ h => h)
        fun _ _ h => h.ended
    | false =>
      refine observeOrdinary_moves start _ hadmission hestop (fun h => hprofile ⟨hestop, h⟩) ?_
      intro hdegraded
      by_contra hnot
      refine hneutral ⟨hestop, hdegraded, ?_⟩
      unfold DriverCommand.Neutral at hnot
      rw [not_and_or, not_le, not_le] at hnot
      exact hnot

theorem acceptCommand_ensures :
    Ensures (acceptCommand command t) w
      (fun result w' => ∃ receiver,
        w.service.receiver.accept command t = .ok (result, receiver) ∧
        w' =
          { w with
            service := { w.service with receiver := receiver }
            trace := if result.accepted then .commandAccepted t :: w.trace else w.trace })
      fun failure w' => w' = w ∧ w.service.receiver.accept command t = .error failure := by
  unfold acceptCommand
  rw [ensures_bind, ensures_getService]
  cases haccept : w.service.receiver.accept command t with
  | error failure => exact ⟨rfl, rfl⟩
  | ok answer =>
    obtain ⟨result, receiver⟩ := answer
    rw [ensures_bind, ensures_modifyService]
    extract_lets done
    refine Ensures.ite (fun haccepted => ?_) fun hrejected => ?_
    · exact ⟨receiver, rfl, by rw [if_pos haccepted]; rfl⟩
    · exact ⟨receiver, rfl, by rw [if_neg hrejected]; rfl⟩

theorem admitCommand_moves (hstart : w.service = start) (hstarted : start.started = true) :
    Ensures (admitCommand adapter command t) w
      (fun result w' => Moves adapter start (.receiveCommand command t) w w' ∧
        ∀ checked, result.command = some checked → Admission start command t w' checked)
      fun _ w' => Moves adapter start (.receiveCommand command t) w w' := by
  have he : Event.receiveCommand command t = .tick t ∨
      ∃ c, Event.receiveCommand command t = .receiveCommand c t := .inr ⟨command, rfl⟩
  unfold admitCommand
  refine Ensures.ite (fun hestop => ?_) fun hordinary => ?_
  · rw [ensures_bind]
    refine acceptCommand_ensures.mono ?_ fun _ w' h => by rw [h.1]; exact .refl w
    rintro result w₁ ⟨receiver, haccept, rfl⟩
    rw [hstart] at haccept
    have hmoves : Moves adapter start (.receiveCommand command t) w _ := .one (.accepts haccept)
    cases hcommand : result.command with
    | none =>
      rw [ensures_bind]
      refine (evaluateControlWatchdog_moves start _ t he).mono ?_ fun _ w' h => hmoves.trans h
      rintro _ w' ⟨hmoves', -⟩
      exact ⟨hmoves.trans hmoves', fun checked h => by rw [hcommand] at h; cases h⟩
    | some effective =>
      have haccepts : start.Accepts command t effective := ⟨result, receiver, haccept, hcommand⟩
      have heffective : effective.estop = true := by
        rw [← (ControlCommand.validate_ok haccepts.validate).1]
        exact hestop
      have hlatches := hmoves.next (.latches haccepts rfl (.inl heffective))
      rw [ensures_bind, ensures_moveSafety, ensures_bind]
      refine (clearSessionProfile_moves start (.receiveCommand command t)).mono ?_
        fun _ _ h => h.elim
      rintro _ w' ⟨hmoves', hservice⟩
      show Moves adapter start _ w w' ∧ ∀ checked, _ → Admission start command t w' checked
      refine ⟨hlatches.trans hmoves', fun checked hchecked => ?_⟩
      obtain rfl : effective = checked := Option.some.inj (hcommand.symm.trans hchecked)
      refine
        { accepted := haccepts
          started := ?_
          estop := heffective.trans hestop.symm
          latched := fun _ => ?_
          watchdog := fun h => ?_
          revoked := fun h => ?_ }
      · rw [hservice]
        show w.service.started = true
        rw [hstart, hstarted]
      · rw [hservice]
        refine ⟨?_, rfl⟩
        show (w.service.safety.onValidCommand effective t).state = _
        rw [SafetyStateMachine.onValidCommand_state, if_pos heffective]
      · rw [heffective] at h
        cases h
      · rw [heffective] at h
        cases h
  · rw [ensures_bind]
    refine (evaluateControlWatchdog_moves start _ t he).mono ?_ fun _ _ h => h
    rintro _ w₁ ⟨hmoves, hservice⟩
    refine acceptCommand_ensures.mono ?_ fun _ w' h => by rw [h.1]; exact hmoves
    rintro result w' ⟨receiver, haccept, rfl⟩
    have hsafety : w₁.service.safety = start.safety.tick t := by
      rw [hservice, hstart]
      split <;> rfl
    have hreceiver : w₁.service.receiver = start.receiver := by
      rw [hservice, hstart]
      split <;> rfl
    rw [hreceiver] at haccept
    refine ⟨hmoves.next (.accepts haccept), fun checked hchecked => ?_⟩
    have haccepts : start.Accepts command t checked := ⟨result, receiver, haccept, hchecked⟩
    have hsame := (ControlCommand.validate_ok haccepts.validate).1
    refine
      { accepted := haccepts
        started := ?_
        estop := hsame.symm
        latched := fun h => absurd (hsame.trans h) hordinary
        watchdog := fun _ => hsafety
        revoked := fun _ hstop => ?_ }
    · show w₁.service.started = true
      rw [hservice, hstart]
      split
      · exact hstarted
      · exact hstarted
    · change w₁.service.safety.state ∈ _ at hstop
      rw [hsafety] at hstop
      show w₁.service.activeSessionProfile = none
      rw [hservice, hstart, if_pos hstop]
      rfl

theorem receiveCommand_moves (hstart : w.service = start) :
    Ensures (receiveCommand adapter command t) w
      (fun _ w' => Moves adapter start (.receiveCommand command t) w w')
      fun _ w' => Ended adapter start (.receiveCommand command t) w w' := by
  unfold receiveCommand
  rw [ensures_bind, ensures_getService]
  refine Ensures.ite (fun _ => .inl (.refl w)) fun hstarted => ?_
  rw [ensures_bind]
  refine (admitCommand_moves start hstart ?_).mono ?_ fun _ _ h => h.ended
  · rw [← hstart]
    simpa using hstarted
  · rintro result w₁ ⟨hmoves, hadmission⟩
    cases hcommand : result.command with
    | none => exact hmoves
    | some checked =>
      exact (handleAccepted_moves start result (hadmission checked hcommand)).mono
        (fun _ w' h => hmoves.trans h) fun _ w' h => h.behind hmoves

end

/-! ## Session profiles -/

section
variable {adapter : VehicleAdapter σ} (start : VehicleControlService) {w : World σ}
  {request : SessionControlProfileRequest} {t : ℤ}

theorem cacheResult_moves (accepted : Bool) (reason : String) :
    Ensures (cacheResult request t accepted reason) w
      (fun _ w' => Moves adapter start (.receiveSessionProfile request t) w w')
      fun _ _ => False := by
  unfold cacheResult
  rw [ensures_bind, ensures_getService, ensures_bind, ensures_modifyService]
  exact .one (.books _ _ _ _ _ _ (.inr ⟨request, t, rfl⟩))

theorem parkingRefusal_moves (e : Event) :
    Ensures (parkingRefusal adapter) w
      (fun _ w' => Moves adapter start e w w' ∧ w'.service = w.service)
      fun _ _ => False := by
  have hasked : Moves adapter start e w (w.after adapter .vcuHandshakeStatus) :=
    .one (.asks .vcuHandshakeStatus trivial nofun)
  unfold parkingRefusal
  rw [ensures_bind, ensures_tryCatch, ensures_map]
  refine ensures_call (fun status _ => ?_) fun _ _ => ⟨hasked, rfl⟩
  refine Ensures.ite (fun _ => ⟨hasked, rfl⟩) fun _ =>
    Ensures.ite (fun _ => ⟨hasked, rfl⟩) fun _ => ⟨hasked, rfl⟩

/-- Up to the adoption: the service is as it was, but for the command applied again. -/
theorem installSessionProfile_moves {profile : SessionControlProfile ℚ}
    (hdecide : start.decideProfile request t = .proceed profile) (hstart : w.service = start)
    (hstarted : start.started = true) :
    Ensures (installSessionProfile adapter request profile) w
      (fun _ w' => ∃ w₁ remembered,
        Moves adapter start (.receiveSessionProfile request t) w w₁ ∧ w₁.service = start ∧
        (∃ s, .called (.configureRuntimeControlProfile profile request.seq) (.ok request.seq) s ∈
          w₁.trace) ∧
        (remembered = start.lastEffectiveCommand ∨
          start.ReappliesCommand profile ∧ ∃ command,
            start.lastEffectiveCommand = some command ∧
            remembered = some (start.reapplied profile command)) ∧
        w' = w₁.withService fun s => { s with lastEffectiveCommand := remembered })
      fun _ w' => Moves adapter start (.receiveSessionProfile request t) w w' := by
  have hconfigures : Moves adapter start (.receiveSessionProfile request t) w
      (w.after adapter (.configureRuntimeControlProfile profile request.seq)) :=
    .one (.configures hdecide hstart)
  unfold installSessionProfile
  rw [ensures_bind]
  refine ensures_call (fun revision hrevision => ?_) fun _ _ => hconfigures
  extract_lets install
  refine Ensures.ite (fun _ => hconfigures) fun hsame => ?_
  obtain rfl : revision = request.seq := not_not.mp hsame
  have hconfigured : ∃ s, .called (.configureRuntimeControlProfile profile request.seq)
      (.ok request.seq) s ∈
        (w.after adapter (.configureRuntimeControlProfile profile request.seq)).trace :=
    ⟨_, World.mem_after hrevision⟩
  have hservice : (w.after adapter
      (.configureRuntimeControlProfile profile request.seq)).service = start := hstart
  generalize w.after adapter (.configureRuntimeControlProfile profile request.seq) = w₁ at *
  show Ensures (getService >>= _) _ _ _
  rw [ensures_bind, ensures_getService]
  subst hservice
  have hkept : w₁ = w₁.withService fun s =>
      { s with lastEffectiveCommand := w₁.service.lastEffectiveCommand } := rfl
  cases hcommand : w₁.service.lastEffectiveCommand with
  | none =>
    rw [hcommand] at hkept
    exact ⟨w₁, none, hconfigures, rfl, hconfigured, .inl rfl, hkept⟩
  | some command =>
    rw [hcommand] at hkept
    refine Ensures.ite (fun hreapplies => ?_) fun _ =>
      ⟨w₁, some command, hconfigures, rfl, hconfigured, .inl rfl, hkept⟩
    have hreapplied := hconfigures.next (.reapplies hdecide rfl hstarted
      hcommand hreapplies hconfigured)
    rw [ensures_bind]
    refine ensures_call (fun _ _ => ?_) fun _ _ => hreapplied
    obtain ⟨s, hmem⟩ := hconfigured
    exact ⟨_, _, hreapplied, rfl, ⟨s, List.mem_cons_of_mem _ hmem⟩,
      .inr ⟨hreapplies, command, rfl, rfl⟩, rfl⟩

theorem abandonSessionProfile_moves (e : Event)
    (he : ∃ request t, e = .receiveSessionProfile request t) :
    Ensures (abandonSessionProfile adapter) w
      (fun _ w' => Moves adapter start e w w')
      fun _ _ => False := by
  have hstops : Moves adapter start e w (w.after adapter
      (.applySafeStop ⟨.N, 0, 0, 1, true, false⟩ ⟨.softwareFault, .controlApplyFailed⟩)) :=
    .one (.stops _ _ ⟨rfl, .inl ⟨rfl, rfl⟩⟩ (.inr (.inr he)))
  have hclears : Ensures (clearSessionProfile adapter) (w.after adapter
      (.applySafeStop ⟨.N, 0, 0, 1, true, false⟩ ⟨.softwareFault, .controlApplyFailed⟩))
      (fun _ w' => Moves adapter start e w w') fun _ _ => False :=
    (clearSessionProfile_moves start e).mono (fun _ w' h => hstops.trans h.1) fun _ _ h => h.elim
  unfold abandonSessionProfile
  rw [ensures_bind, ensures_tryCatch]
  exact ensures_call (fun _ _ => hclears) fun _ _ => hclears

theorem adoptSessionProfile_moves {profile : SessionControlProfile ℚ}
    (hdecide : start.decideProfile request t = .proceed profile) (hstart : w.service = start)
    (hstarted : start.started = true) :
    Ensures (adoptSessionProfile adapter request profile t) w
      (fun _ w' => Moves adapter start (.receiveSessionProfile request t) w w')
      fun _ _ => False := by
  unfold adoptSessionProfile
  rw [ensures_bind, ensures_tryCatch, ensures_bind]
  refine (installSessionProfile_moves start hdecide hstart hstarted).mono ?_ ?_
  · rintro _ w' ⟨w₁, remembered, hmoves, hservice, hconfigured, hremembered, rfl⟩
    rw [ensures_pure, if_pos rfl, ensures_bind, ensures_modifyService]
    subst hservice
    have hadopts := hmoves.next (.adopts hdecide rfl remembered hremembered hconfigured)
    exact (cacheResult_moves _ _ _).mono (fun _ w' h => hadopts.trans h) fun _ _ h => h
  · intro _ w₁ hmoves
    rw [ensures_bind]
    refine (abandonSessionProfile_moves start (.receiveSessionProfile request t)
      ⟨request, t, rfl⟩).mono ?_ fun _ _ h => h
    intro _ w₂ hmoves'
    rw [ensures_pure, if_neg (by simp)]
    exact (cacheResult_moves _ _ _).mono (fun _ w' h => (hmoves.trans hmoves').trans h)
      fun _ _ h => h

theorem changeSessionProfile_moves {profile : SessionControlProfile ℚ}
    (hdecide : start.decideProfile request t = .proceed profile) (hstart : w.service = start)
    (hstarted : start.started = true) :
    Ensures (changeSessionProfile adapter request profile t) w
      (fun _ w' => Moves adapter start (.receiveSessionProfile request t) w w')
      fun _ w' => Moves adapter start (.receiveSessionProfile request t) w w' := by
  have hasked : Moves adapter start (.receiveSessionProfile request t) w
      (w.after adapter .status) := .one (.asks .status trivial nofun)
  unfold changeSessionProfile
  rw [ensures_bind, ensures_getService, ensures_bind]
  refine ensures_call (fun status _ => ?_) fun _ _ => hasked
  extract_lets bypass proceed
  have hproceeds : ∀ (refusal : Option String) (w₁ : World σ),
      Moves adapter start (.receiveSessionProfile request t) w w₁ → w₁.service = start →
      Ensures (proceed refusal) w₁
        (fun _ w' => Moves adapter start (.receiveSessionProfile request t) w w')
        fun _ w' => Moves adapter start (.receiveSessionProfile request t) w w' := by
    intro refusal w₁ hmoves hservice
    cases refusal with
    | some reason =>
      exact (cacheResult_moves _ _ _).mono (fun _ w' h => hmoves.trans h) fun _ _ h => h.elim
    | none =>
      exact (adoptSessionProfile_moves start hdecide hservice hstarted).mono
        (fun _ w' h => hmoves.trans h) fun _ _ h => h.elim
  refine Ensures.ite (fun _ => ?_) fun _ => ?_
  · rw [ensures_bind]
    refine (parkingRefusal_moves start (.receiveSessionProfile request t)).mono ?_
      fun _ _ h => h.elim
    rintro refusal w₁ ⟨hmoves, hservice⟩
    exact hproceeds refusal w₁ (hasked.trans hmoves) (hservice.trans hstart)
  · exact hproceeds none _ hasked hstart

theorem receiveSessionProfile_moves (hstart : w.service = start) :
    Ensures (receiveSessionProfile adapter request t) w
      (fun _ w' => Moves adapter start (.receiveSessionProfile request t) w w')
      fun _ w' => Moves adapter start (.receiveSessionProfile request t) w w' := by
  unfold receiveSessionProfile
  rw [ensures_bind, ensures_getService]
  refine Ensures.ite (fun _ => .refl w) fun hstarted => Ensures.ite (fun _ => .refl w) fun _ => ?_
  subst hstart
  cases hdecide : w.service.decideProfile request t with
  | reply idempotent reason => exact .refl w
  | replay result =>
    rw [ensures_bind, ensures_modifyService]
    exact .one (.books _ _ _ _ _ _ (.inr ⟨_, _, rfl⟩))
  | refuse reason => exact (cacheResult_moves _ _ _).mono (fun _ w' h => h) fun _ _ h => h.elim
  | proceed profile =>
    exact changeSessionProfile_moves _ hdecide rfl (by simpa using hstarted)

end

/-! ## Start, handshakes and ticks -/

section
variable {adapter : VehicleAdapter σ} (start : VehicleControlService) {w : World σ}

theorem start_moves (t : ℤ) (hstart : w.service = start) :
    Ensures (Service.start adapter) w
      (fun _ w' => Moves adapter start (.start t) w w')
      fun _ w' => Moves adapter start (.start t) w w' := by
  unfold Service.start
  rw [ensures_bind, ensures_getService]
  refine Ensures.ite (fun _ => .refl w) fun hstarted => ?_
  have hstopped : start.started = false := by
    rw [← hstart]
    simpa using hstarted
  have hopens : Moves adapter start (.start t) w (w.after adapter .openAdapter) :=
    .one (.asks .openAdapter trivial fun _ => .inr hstopped)
  have hclears := hopens.next (.asks .clearRuntimeControlProfile trivial fun _ => .inr hstopped)
  have hcloses := hclears.next (.asks .closeAdapter trivial fun _ => .inr hstopped)
  rw [ensures_bind]
  refine ensures_call (fun _ _ => ?_) fun _ _ => hopens
  rw [ensures_bind, ensures_tryCatch]
  refine ensures_call (fun _ _ => (hclears.next .readies).next .starts) fun _ _ => ?_
  rw [ensures_bind]
  exact ensures_call (fun _ _ => hcloses) fun _ _ => hcloses

theorem resetToStandby_of_free {m : SafetyStateMachine} (h : ¬m.state.Latched) :
    m.resetToStandby = (true, m.enterStandby) :=
  if_neg h

theorem requestVcuHandshake_moves :
    Ensures (requestVcuHandshake adapter) w
      (fun _ w' => Moves adapter start .requestVcuHandshake w w')
      fun _ w' => Moves adapter start .requestVcuHandshake w w' := by
  have hasks : Moves adapter start .requestVcuHandshake w (w.after adapter .requestVcuHandshake) :=
    .one (.asks .requestVcuHandshake trivial nofun)
  unfold requestVcuHandshake
  rw [ensures_bind, ensures_getService]
  refine Ensures.ite (fun _ => .refl w) fun _ => Ensures.ite (fun _ => .refl w) fun _ =>
    Ensures.ite (fun _ => .refl w) fun hfree => ?_
  rw [ensures_bind]
  refine ensures_call (fun granted hgranted => ?_) fun _ _ => hasks
  refine Ensures.ite (fun _ => hasks) fun hyes => ?_
  obtain rfl : granted = true := by simpa using hyes
  rw [ensures_bind, ensures_getService]
  have hreset : (w.after adapter .requestVcuHandshake).service.safety.resetToStandby =
      (true, w.service.safety.enterStandby) := resetToStandby_of_free hfree
  have hstands : Move adapter start .requestVcuHandshake (w.after adapter .requestVcuHandshake)
      ((w.after adapter .requestVcuHandshake).moved SafetyStateMachine.enterStandby) :=
    .stands hfree ⟨_, World.mem_after hgranted⟩
  rw [hreset]
  show Ensures (moveSafety _ >>= _) _ _ _
  rw [ensures_bind, ensures_moveSafety]
  exact (hasks.next hstands).next (.flags false)

theorem disconnectVcuHandshake_moves :
    Ensures (disconnectVcuHandshake adapter) w
      (fun _ w' => Moves adapter start .disconnectVcuHandshake w w')
      fun _ w' => Moves adapter start .disconnectVcuHandshake w w' := by
  have hasks : Moves adapter start .disconnectVcuHandshake w
      (w.after adapter .disconnectVcuHandshake) := .one (.asks .disconnectVcuHandshake trivial nofun)
  unfold disconnectVcuHandshake
  rw [ensures_bind, ensures_getService]
  refine Ensures.ite (fun _ => .refl w) fun _ => ?_
  rw [ensures_bind]
  refine ensures_call (fun disconnected _ => ?_) fun _ _ => hasks
  refine Ensures.ite (fun _ => ?_) fun _ => hasks
  rw [ensures_bind, ensures_modifyService, ensures_bind]
  refine (clearSessionProfile_moves start .disconnectVcuHandshake).mono ?_ fun _ _ h => h.elim
  rintro _ w' ⟨hmoves, -⟩
  exact (hasks.next (.flags true)).trans hmoves

theorem buildTelemetry_moves (e : Event) (t : ℤ) :
    Ensures (buildTelemetry adapter t) w
      (fun _ w' => Moves adapter start e w w' ∧ w'.service.safety = w.service.safety)
      fun _ w' => Moves adapter start e w w' ∧ w'.service.safety = w.service.safety := by
  have hread : Moves adapter start e w (w.after adapter .readTelemetry) :=
    .one (.asks .readTelemetry trivial nofun)
  have hcounted : Moves adapter start e w ((w.after adapter .readTelemetry).withService fun s =>
      { s with telemetrySequence := s.telemetrySequence + 1 }) :=
    hread.next (.books w.service.adapterSafeStopActive w.service.lastTelemetryMs _
      w.service.telemetryHistory w.service.lastSessionProfileRequest
      w.service.lastSessionProfileResult (.inl ⟨rfl, rfl⟩))
  have hstatus := hcounted.next (.asks .status trivial nofun)
  have hall := hstatus.next (.asks .vcuHandshakeStatus trivial nofun)
  unfold buildTelemetry
  rw [ensures_bind]
  refine ensures_call (fun _ _ => ?_) fun _ _ => ⟨hread, rfl⟩
  rw [ensures_bind, ensures_modifyService, ensures_bind]
  refine ensures_call (fun _ _ => ?_) fun _ _ => ⟨hstatus, rfl⟩
  rw [ensures_bind]
  exact ensures_call (fun _ _ => ⟨hall, rfl⟩) fun _ _ => ⟨hall, rfl⟩

theorem recordTelemetry_moves (e : Event) (t : ℤ) :
    Ensures (recordTelemetry adapter t) w
      (fun _ w' => Moves adapter start e w w' ∧ w'.service.safety = w.service.safety)
      fun _ _ => False := by
  unfold recordTelemetry
  rw [ensures_bind, ensures_getService]
  extract_lets due
  refine Ensures.ite (fun _ => ?_) fun _ => ⟨.refl w, rfl⟩
  rw [ensures_tryCatch, ensures_bind, ensures_modifyService, ensures_bind]
  have htrimmed : Moves adapter start e w (w.withService fun s =>
      { s with
        telemetryHistory :=
          if s.telemetryHistory.length = maxVehicleTelemetryHistory then s.telemetryHistory.tail
          else s.telemetryHistory }) :=
    .one (.books w.service.adapterSafeStopActive w.service.lastTelemetryMs
      w.service.telemetrySequence _ w.service.lastSessionProfileRequest
      w.service.lastSessionProfileResult (.inl ⟨rfl, rfl⟩))
  refine (buildTelemetry_moves start e t).mono ?_ ?_
  · rintro telemetry w' ⟨hmoves, hsafety⟩
    exact ⟨(htrimmed.trans hmoves).next (.books _ _ _ _ _ _ (.inl ⟨rfl, rfl⟩)), hsafety⟩
  · rintro _ w' ⟨hmoves, hsafety⟩
    exact ⟨htrimmed.trans hmoves, hsafety⟩

theorem tick_moves (t : ℤ) :
    Ensures (tick adapter t) w
      (fun _ w' => Moves adapter start (.tick t) w w')
      fun _ w' => Moves adapter start (.tick t) w w' := by
  unfold tick
  rw [ensures_bind, ensures_getService]
  refine Ensures.ite (fun _ => .refl w) fun _ => ?_
  rw [ensures_bind]
  refine (pollFeedbackFails_moves start (.tick t)).mono ?_ fun _ _ h => h.elim
  rintro pollFailed w₁ ⟨hpolled, -⟩
  rw [ensures_bind]
  refine (refreshAdapterSafeStopState_moves start (.tick t)).mono ?_ fun _ _ h => h.elim
  rintro observed w₂ ⟨hrefreshed, -⟩
  have hmoves := hpolled.trans hrefreshed
  rw [ensures_bind, ensures_getService]
  extract_lets evaluate
  have hevaluated : ∀ w₃ : World σ, Moves adapter start (.tick t) w w₃ →
      Ensures (evaluate ()) w₃
        (fun _ w' => Moves adapter start (.tick t) w w')
        fun _ w' => Moves adapter start (.tick t) w w' := by
    intro w₃ hmoves
    show Ensures (evaluateControlWatchdog adapter t >>= _) _ _ _
    rw [ensures_bind]
    refine (evaluateControlWatchdog_moves start (.tick t) t (.inl rfl)).mono ?_
      fun _ w' h => hmoves.trans h
    rintro _ w₄ ⟨hwatchdog, -⟩
    exact (recordTelemetry_moves start (.tick t) t).mono
      (fun _ w' h => (hmoves.trans hwatchdog).trans h.1) fun _ _ h => h.elim
  refine Ensures.ite (fun _ => ?_) fun _ => hevaluated w₂ hmoves
  rw [ensures_bind, ensures_moveSafety]
  exact hevaluated _ (hmoves.next (.faults (.inl ⟨t, rfl⟩)))

/-! ## Reset and close -/

/-- What the adapter has said where a reset goes on with its gear. -/
def ObservedGear (past : List Observation) (gear : Gear) (trace : List Observation) : Prop :=
  ∃ telemetry handshake s s', telemetry.gear = gear ∧ handshake.disarming = false ∧
    trace = .called .vcuHandshakeStatus (.ok handshake) s' ::
      .called .readTelemetry (.ok telemetry) s :: past

/-- The zero output, accepted where the adapter was not disarming, and then the release. -/
def Released (past trace : List Observation) : Prop :=
  ∃ later gear s observed, ObservedGear past gear observed ∧
    trace = later ++ .safetyChanged .estop .standby ::
      .called (.applySafeStop ⟨gear, 0, 0, 0, false, false⟩ {}) (.ok ()) s :: observed

/-- The adapter has accepted no output on the way. -/
def NoStopAccepted (past trace : List Observation) : Prop :=
  ∀ output context s, .called (.applySafeStop output context) (.ok ()) s ∈ trace →
    .called (.applySafeStop output context) (.ok ()) s ∈ past

theorem noStopAccepted_after {past : List Observation} {w : World σ} {c : AdapterCall}
    (h : NoStopAccepted past w.trace)
    (hcall : ∀ output context, c = .applySafeStop output context →
      ∀ r, (adapter.answer c w.adapter).1 ≠ .ok r) :
    NoStopAccepted past (w.after adapter c).trace := by
  intro output context s hmem
  rcases List.mem_cons.mp hmem with heq | hmem
  · injection heq with hc hr
    subst hc
    exact (hcall output context rfl () (eq_of_heq hr).symm).elim
  · exact h output context s hmem

theorem observeForReset_moves (e : Event) :
    Ensures (observeForReset adapter) w
      (fun observed w' => Moves adapter start e w w' ∧
        w'.service.safety = w.service.safety ∧ NoStopAccepted w.trace w'.trace ∧
        ∀ gear ∈ observed, ObservedGear w.trace gear w'.trace)
      fun _ _ => False := by
  have hread : Moves adapter start e w (w.after adapter .readTelemetry) :=
    .one (.asks .readTelemetry trivial nofun)
  have hboth := hread.next (.asks .vcuHandshakeStatus trivial nofun)
  have hquiet : NoStopAccepted w.trace (w.after adapter .readTelemetry).trace :=
    noStopAccepted_after (fun _ _ _ h => h) (by simp)
  have hquiet' : NoStopAccepted w.trace
      ((w.after adapter .readTelemetry).after adapter .vcuHandshakeStatus).trace :=
    noStopAccepted_after hquiet (by simp)
  unfold observeForReset
  rw [ensures_tryCatch, ensures_bind]
  refine ensures_call (fun telemetry htelemetry => ?_) fun _ _ => ⟨hread, rfl, hquiet, by simp⟩
  rw [ensures_bind]
  refine ensures_call (fun handshake hhandshake => ?_) fun _ _ => ⟨hboth, rfl, hquiet', by simp⟩
  rw [ensures_bind, ensures_modifyService, ensures_pure]
  refine ⟨hboth.next (.books _ _ _ _ _ _ (.inl ⟨rfl, rfl⟩)), rfl, hquiet', fun gear hgear => ?_⟩
  cases hdisarming : handshake.disarming with
  | true =>
    rw [hdisarming, if_pos rfl] at hgear
    cases hgear
  | false =>
    rw [hdisarming, if_neg (by simp)] at hgear
    refine ⟨telemetry, handshake, w.service, w.service, Option.some.inj hgear, hdisarming, ?_⟩
    show (World.after adapter .vcuHandshakeStatus _).trace = _
    rw [World.trace_after hhandshake, World.trace_after htelemetry]
    rfl

theorem resetEstop_moves (localConfirmed : Bool) (authorizedBy : String) (t : ℤ) :
    Ensures (resetEstop adapter localConfirmed authorizedBy) w
      (fun reset w' => Moves adapter start (.resetEstop localConfirmed authorizedBy t) w w' ∧
        if reset then
          w.service.safety.state = .estop ∧ localConfirmed = true ∧ authorizedBy ≠ "" ∧
          w'.service.safety = w.service.safety.enterStandby ∧ Released w.trace w'.trace
        else w'.service.safety = w.service.safety ∧ NoStopAccepted w.trace w'.trace)
      fun _ _ => False := by
  unfold resetEstop
  rw [ensures_bind, ensures_getService]
  refine Ensures.ite (fun _ => ⟨.refl w, rfl, fun _ _ _ h => h⟩) fun hallowed => ?_
  obtain ⟨hestop, hconfirmed, hauthorized⟩ : w.service.safety.state = .estop ∧
      localConfirmed = true ∧ authorizedBy ≠ "" := by simpa using hallowed
  subst hconfirmed
  rw [ensures_bind]
  refine (observeForReset_moves start (.resetEstop true authorizedBy t)).mono ?_ fun _ _ h => h
  rintro observed w₁ ⟨hobserves, hsame, hquiet, hobserved⟩
  cases observed with
  | none => exact ⟨hobserves, hsame, hquiet⟩
  | some gear =>
    have hgear := hobserved gear rfl
    have hzeroes : Move adapter start (.resetEstop true authorizedBy t) w₁
        (w₁.after adapter (.applySafeStop ⟨gear, 0, 0, 0, false, false⟩ {})) := by
      obtain ⟨telemetry, handshake, s, s', -, hdisarming, htrace⟩ := hgear
      exact .zeroes gear (by rw [hsame]; exact hestop) hauthorized
        ⟨handshake, s', by rw [htrace]; exact List.mem_cons_self .., hdisarming⟩
    have hzero := hobserves.next hzeroes
    rw [ensures_bind, ensures_tryCatch, ensures_bind]
    refine ensures_call (fun _ haccepted => ?_) fun _ hrejected => ?_
    · have hreset : w₁.service.safety.resetEstop true authorizedBy =
          (true, w₁.service.safety.enterStandby) :=
        if_neg (by simp [hsame, hestop, hauthorized])
      rw [ensures_pure, if_neg (by simp), ensures_bind, ensures_getService]
      change Ensures (moveSafety (fun _ => (w₁.service.safety.resetEstop true authorizedBy).2) >>=
        fun _ => if (w₁.service.safety.resetEstop true authorizedBy).1 = false then _ else _) _ _ _
      rw [hreset, ensures_bind, ensures_moveSafety, if_neg (by simp), ensures_bind,
        ensures_modifyService]
      have hreleases : Move adapter start (.resetEstop true authorizedBy t)
          (w₁.after adapter (.applySafeStop ⟨gear, 0, 0, 0, false, false⟩ {}))
          ((w₁.after adapter (.applySafeStop ⟨gear, 0, 0, 0, false, false⟩ {})).moved
            SafetyStateMachine.enterStandby) :=
        .releases gear (by show w₁.service.safety.state = _; rw [hsame]; exact hestop) hauthorized
          ⟨_, World.mem_after haccepted⟩
      have hreleased := (hzero.next hreleases).next (.flags false)
      rw [ensures_bind]
      refine (refreshAdapterSafeStopState_moves start (.resetEstop true authorizedBy t)).mono ?_
        fun _ _ h => h
      rintro _ w₂ ⟨hrefreshes, hrefreshed⟩
      refine ⟨hreleased.trans hrefreshes, hestop, rfl, hauthorized, ?_, ?_⟩
      · show w₂.service.safety = _
        rw [← hsame]
        rcases hrefreshed with ⟨-, hservice⟩ | ⟨-, hservice | ⟨hservice, -⟩⟩
        all_goals
          rw [hservice]
          rfl
      · obtain ⟨later, htrace⟩ := hrefreshes.trace_suffix
        refine ⟨later, gear, w₁.service, w₁.trace, hgear, ?_⟩
        show w₂.trace = _
        rw [← htrace]
        show _ ++ .safetyChanged w₁.service.safety.state .standby :: (World.after ..).trace = _
        rw [World.trace_after haccepted, hsame, hestop]
    · rw [ensures_bind, ensures_modifyService]
      refine ⟨hzero.next (.flags true), hsame, noStopAccepted_after hquiet ?_⟩
      intro _ _ _ _ haccepted
      rw [haccepted] at hrejected
      cases hrejected

theorem close_moves (context : StopContext) :
    Ensures (close adapter context) w
      (fun _ w' => Moves adapter start (.close context) w w')
      fun _ w' => Ended adapter start (.close context) w w' := by
  unfold close
  rw [ensures_bind, ensures_getService]
  refine Ensures.ite (fun _ => .refl w) fun _ => ?_
  refine stopAndRevoke_moves start _ _ _ _ ⟨rfl, .inl ⟨rfl, rfl⟩⟩ (fun _ _ h => h)
    fun w₁ hmoves hnone => ?_
  have hcloses := hmoves.next (.asks .closeAdapter trivial fun _ => .inl hnone)
  rw [ensures_bind]
  exact ensures_call (fun _ _ => hcloses.next (.closes hnone)) fun _ _ => hcloses.ended

/-! ## All of them -/

/-- Whatever the adapter answers, an operation is a path of the moves that its event allows, but
for a stop in which it throws. -/
theorem operation_moves (e : Event) (hstart : w.service = start) :
    Ensures (operation adapter e) w
      (fun _ w' => Moves adapter start e w w')
      fun _ w' => Ended adapter start e w w' := by
  cases e with
  | start t =>
    exact (ensures_bind _ _).mpr
      ((start_moves start t hstart).mono (fun _ _ h => h) fun _ _ h => h.ended)
  | receiveSessionProfile request t =>
    exact (ensures_map _ _).mpr
      ((receiveSessionProfile_moves start hstart).mono (fun _ _ h => h) fun _ _ h => h.ended)
  | receiveCommand command t => exact (ensures_map _ _).mpr (receiveCommand_moves start hstart)
  | requestVcuHandshake =>
    exact (ensures_map _ _).mpr
      ((requestVcuHandshake_moves start).mono (fun _ _ h => h) fun _ _ h => h.ended)
  | disconnectVcuHandshake =>
    exact (ensures_map _ _).mpr
      ((disconnectVcuHandshake_moves start).mono (fun _ _ h => h) fun _ _ h => h.ended)
  | tick t =>
    exact (ensures_bind _ _).mpr ((tick_moves start t).mono (fun _ _ h => h) fun _ _ h => h.ended)
  | resetEstop localConfirmed authorizedBy t =>
    exact (ensures_map _ _).mpr
      ((resetEstop_moves start localConfirmed authorizedBy t).mono (fun _ _ h => h.1)
        fun _ _ h => h.elim)
  | close context => exact (ensures_bind _ _).mpr (close_moves start context)

/-- What an operation ensures from an empty trace, `respond` ensures. -/
theorem respond_ensures (adapter : VehicleAdapter σ) {w : World σ} {e : Event}
    {Q : Reply → World σ → Prop}
    (h : Ensures (operation adapter e) { w with trace := [] } Q fun failure => Q (.threw failure)) :
    Q (respond adapter w e).1 (respond adapter w e).2 := by
  unfold Ensures at h
  unfold respond
  generalize (operation adapter e).exec { w with trace := [] } = ended at h
  obtain ⟨reply | failure, w'⟩ := ended
  · exact h
  · exact h

theorem respond_ended (adapter : VehicleAdapter σ) (w : World σ) (e : Event) :
    Ended adapter w.service e { w with trace := [] } (respond adapter w e).2 :=
  ensures_state.mp ((operation_moves (w := { w with trace := [] }) w.service e rfl).mono
    (fun _ _ h => h.ended) fun _ _ h => h)

end

end MineTeleop.Service
