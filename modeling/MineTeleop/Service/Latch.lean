import MineTeleop.Service.Operations
import MineTeleop.Service.Timeout

/-!
# Estop and Fault are latched

Proved here, for every adapter and every order of operations:

* `latch_holds`: a latched safety machine stays latched, and neither it nor the service puts out
  anything but the full brake without traction, until a reset with a local confirmation and an
  authorizer releases it behind an accepted zero output;
* `estop_latches`: an accepted ESTOP is in force when `receive_command` ends, however it ends;
* `fault_kept_iff`: Fault is kept exactly in the runs in which no ESTOP is accepted in Fault.
-/

namespace MineTeleop.Service

open Programs
open Runs

variable {σ : Type}

/-! ## The latch of the safety machine -/

namespace SafetyStateMachine

theorem tick_of_latched {m : SafetyStateMachine} (h : m.state.Latched) (t : ℤ) : m.tick t = m :=
  if_pos (by rcases h with h | h <;> simp [h])

theorem markReady_of_latched {m : SafetyStateMachine} (h : m.state.Latched) : m.markReady = m :=
  if_neg (by rcases h with h | h <;> simp [h])

theorem resetToStandby_of_latched {m : SafetyStateMachine} (h : m.state.Latched) :
    m.resetToStandby = (false, m) :=
  if_pos h

theorem resetEstop_cases (m : SafetyStateMachine) (localConfirmed : Bool) (authorizedBy : String) :
    m.resetEstop localConfirmed authorizedBy = (false, m) ∨
      m.resetEstop localConfirmed authorizedBy = (true, m.enterStandby) ∧ m.state = .estop ∧
        localConfirmed = true ∧ authorizedBy ≠ "" := by
  unfold resetEstop
  split
  · exact .inl rfl
  · rename_i hallowed
    exact .inr ⟨rfl, by simpa using hallowed⟩

/-- The call that releases the latch. -/
def Resets (st : SafetyStep) : Prop :=
  ∃ authorizedBy, st.event = .resetEstop true authorizedBy ∧ authorizedBy ≠ "" ∧ st.output = true

/-- What one call may do to a latched machine, and what a refused reset does to any. -/
structure LatchHeld (st : SafetyStep) : Prop where
  stays : st.before.state.Latched → st.after.state.Latched ∨ Resets st
  refused : ∀ localConfirmed authorizedBy, st.event = .resetEstop localConfirmed authorizedBy →
    st.output = false → st.after = st.before

theorem respond_latchHeld (built m : SafetyStateMachine) (e : SafetyEvent) :
    LatchHeld ((machine built).observe m e) := by
  constructor
  · intro h
    change m.state.Latched at h
    cases e with
    | markReady =>
      left
      show m.markReady.state.Latched
      rw [markReady_of_latched h]
      exact h
    | onValidCommand command t => exact .inl (onValidCommand_latched (.inr h) t)
    | tick t =>
      left
      show (m.tick t).state.Latched
      rw [tick_of_latched h]
      exact h
    | resetEstop localConfirmed authorizedBy =>
      rcases m.resetEstop_cases localConfirmed authorizedBy with hreset | ⟨hreset, -, rfl, hname⟩
      · left
        show (m.resetEstop localConfirmed authorizedBy).2.state.Latched
        rw [hreset]
        exact h
      · exact .inr ⟨authorizedBy, rfl, hname, congrArg Prod.fst hreset⟩
    | resetToStandby =>
      left
      show m.resetToStandby.2.state.Latched
      rw [resetToStandby_of_latched h]
      exact h
    | markFault => exact .inl (.inr rfl)
  · rintro localConfirmed authorizedBy heq hrefused
    obtain rfl : e = .resetEstop localConfirmed authorizedBy := heq
    rcases m.resetEstop_cases localConfirmed authorizedBy with hreset | ⟨hreset, -⟩
    · exact congrArg Prod.snd hreset
    · have htrue : (m.resetEstop localConfirmed authorizedBy).1 = true := by rw [hreset]
      exact absurd (htrue.symm.trans hrefused) (by simp)

end SafetyStateMachine

/-! ## The latch of the service -/

/-- A reset of the latch, with all that has to come before it. -/
structure Resets (st : ServiceStep σ) : Prop where
  asked : ∃ authorizedBy t, st.event = .resetEstop true authorizedBy t ∧ authorizedBy ≠ ""
  answered : st.output = .answered true
  estop : st.before.service.safety.state = .estop
  standby : st.after.service.safety = st.before.service.safety.enterStandby
  released : Released [] st.after.trace

/-- The calls under the latch: no control, and no output but the full brake without traction and
the zero output of a reset. -/
def Observation.Held (e : Event) : Observation → Prop
  | .called (.applyControl _) _ s => ¬s.safety.state.Latched
  | .called (.applySafeStop output _) _ s => s.safety.state.Latched → output.throttle = 0 ∧
      (output.brake = 1 ∨ ∃ authorizedBy t, e = .resetEstop true authorizedBy t)
  | _ => True

theorem held_passive {e : Event} {c : AdapterCall} (hc : c.Passive)
    (r : Except Failure c.Result) (s : VehicleControlService) :
    (Observation.called c r s).Held e := by
  cases c with
  | applyControl | applySafeStop => cases hc
  | _ => trivial

theorem held_stop {e : Event} {output : ControlOutput} {context : Bridge.StopContext}
    {r : Except Failure Unit} {s : VehicleControlService} (h : StopOutput s output) :
    (Observation.called (.applySafeStop output context) r s).Held e :=
  fun hlatched => ⟨h.1, .inl (h.2.resolve_right fun hfree => hfree.1 hlatched).1⟩

section
variable {adapter : VehicleAdapter σ} {start : VehicleControlService} {e : Event} {w w' : World σ}

/-- Only a reset leaves the latch. -/
theorem move_latched (hmove : Move adapter start e w w') (h : w.service.safety.state.Latched) :
    w'.service.safety.state.Latched ∨ ∃ authorizedBy t, e = .resetEstop true authorizedBy t := by
  cases hmove with
  | readies =>
    left
    show w.service.safety.markReady.state.Latched
    rw [SafetyStateMachine.markReady_of_latched h]
    exact h
  | ticks t =>
    left
    show (w.service.safety.tick t).state.Latched
    rw [SafetyStateMachine.tick_of_latched h]
    exact h
  | faults => exact .inl (.inr rfl)
  | latches => exact .inl (SafetyStateMachine.onValidCommand_latched (.inr h) _)
  | activates => exact .inl (SafetyStateMachine.onValidCommand_latched (.inr h) _)
  | stands hfree => exact absurd h hfree
  | releases => exact .inr ⟨_, _, rfl⟩
  | _ => exact .inl h

theorem move_held (hmove : Move adapter start e w w') (h : ∀ o ∈ w.trace, o.Held e) :
    ∀ o ∈ w'.trace, o.Held e := by
  cases hmove with
  | asks c hc => exact List.forall_mem_cons.mpr ⟨held_passive hc _ _, h⟩
  | books | starts | closes | adopts => exact h
  | revokes => exact List.forall_mem_cons.mpr ⟨held_passive (c := .clearRuntimeControlProfile) trivial _ _, h⟩
  | stops output context houtput => exact List.forall_mem_cons.mpr ⟨held_stop houtput, h⟩
  | stopsFirst output context houtput =>
    refine List.forall_mem_cons.mpr ⟨held_passive (c := .clearRuntimeControlProfile) trivial _ _, ?_⟩
    exact List.forall_mem_cons.mpr ⟨held_stop houtput, h⟩
  | readies | ticks | faults | latches | stands | releases =>
    exact List.forall_mem_cons.mpr ⟨trivial, h⟩
  | configures => exact List.forall_mem_cons.mpr ⟨trivial, h⟩
  | reapplies _ _ _ _ hreapplies =>
    refine List.forall_mem_cons.mpr ⟨?_, h⟩
    have hactive := hreapplies.2.2.2.2
    show ¬_
    rw [SafetyState.Latched, hactive]
    simp
  | accepts =>
    show ∀ o ∈ ite _ _ _, _
    split
    · exact List.forall_mem_cons.mpr ⟨trivial, h⟩
    · exact h
  | controls hguard =>
    refine List.forall_mem_cons.mpr ⟨?_, h⟩
    have hstate := hguard.state
    rintro (hlatched | hlatched) <;> simp [hlatched] at hstate
  | activates => exact List.forall_mem_cons.mpr ⟨trivial, h⟩
  | zeroes => exact List.forall_mem_cons.mpr ⟨fun _ => ⟨rfl, .inr ⟨_, _, rfl⟩⟩, h⟩

end

/-- What one operation may do under the latch, and what a reset that is not answered with `true`
does at any time. -/
structure LatchHeld (st : ServiceStep σ) : Prop where
  stays : st.before.service.safety.state.Latched →
    st.after.service.safety.state.Latched ∨ Resets st
  outputs : ∀ o ∈ st.after.trace, o.Held st.event
  granted : ∀ localConfirmed authorizedBy t,
    st.event = .resetEstop localConfirmed authorizedBy t → st.output = .answered true → Resets st
  refused : ∀ localConfirmed authorizedBy t,
    st.event = .resetEstop localConfirmed authorizedBy t → st.output ≠ .answered true →
    st.after.service.safety = st.before.service.safety ∧ NoStopAccepted [] st.after.trace

section
variable (adapter : VehicleAdapter σ) (built w : World σ)

theorem respond_resetEstop (localConfirmed : Bool) (authorizedBy : String) (t : ℤ) :
    let st := (machine adapter built).observe w (.resetEstop localConfirmed authorizedBy t)
    (st.output = .answered true ∧ Resets st) ∨
      (st.output = .answered false ∧ st.after.service.safety = w.service.safety ∧
        NoStopAccepted [] st.after.trace) := by
  have hreset := respond_ensures adapter (w := w)
    (e := .resetEstop localConfirmed authorizedBy t)
    (Q := fun reply w' => ∃ reset, reply = .answered reset ∧
      if reset then
        w.service.safety.state = .estop ∧ localConfirmed = true ∧ authorizedBy ≠ "" ∧
        w'.service.safety = w.service.safety.enterStandby ∧ Released [] w'.trace
      else w'.service.safety = w.service.safety ∧ NoStopAccepted [] w'.trace)
    ((ensures_map _ _).mpr
      ((resetEstop_moves w.service localConfirmed authorizedBy t).mono
        (fun reset _ h => ⟨reset, rfl, h.2⟩) fun _ _ h => h.elim))
  obtain ⟨reset, hreply, h⟩ := hreset
  cases reset with
  | true =>
    obtain ⟨hestop, rfl, hname, hstandby, hreleased⟩ := h
    exact .inl ⟨hreply, ⟨_, _, rfl, hname⟩, hreply, hestop, hstandby, hreleased⟩
  | false => exact .inr ⟨hreply, h⟩

theorem respond_latchHeld (e : Event) : LatchHeld ((machine adapter built).observe w e) := by
  have hended : Ended adapter w.service e { w with trace := [] } (respond adapter w e).2 :=
    respond_ended adapter w e
  have houtputs : ∀ o ∈ (respond adapter w e).2.trace, o.Held e :=
    hended.keeps (I := fun w => ∀ o ∈ w.trace, o.Held e) (fun _ _ => move_held)
      (fun _ _ _ houtput h => List.forall_mem_cons.mpr ⟨held_stop houtput, h⟩) (by simp)
  constructor
  · intro hlatched
    by_cases hreset : ∃ authorizedBy t, e = .resetEstop true authorizedBy t
    · obtain ⟨authorizedBy, t, rfl⟩ := hreset
      rcases respond_resetEstop adapter built w true authorizedBy t with ⟨-, h⟩ | ⟨-, h, -⟩
      · exact .inr h
      · left
        rw [h]
        exact hlatched
    · refine .inl (hended.keeps (I := fun w => w.service.safety.state.Latched) ?_
        (fun _ _ _ _ h => h) hlatched)
      exact fun w₁ w₂ hmove h => (move_latched hmove h).resolve_right hreset
  · exact houtputs
  · rintro localConfirmed authorizedBy t heq hanswered
    obtain rfl : e = .resetEstop localConfirmed authorizedBy t := heq
    rcases respond_resetEstop adapter built w localConfirmed authorizedBy t with ⟨-, h⟩ | ⟨h, -⟩
    · exact h
    · cases hanswered.symm.trans h
  · rintro localConfirmed authorizedBy t heq hanswered
    obtain rfl : e = .resetEstop localConfirmed authorizedBy t := heq
    rcases respond_resetEstop adapter built w localConfirmed authorizedBy t with ⟨h, -⟩ | ⟨-, h⟩
    · exact absurd h hanswered
    · exact h

end

/-- The latch, over all runs of the safety machine and of the service. -/
theorem latch_holds (adapter : VehicleAdapter σ) (built : World σ) (safety : SafetyStateMachine) :
    (∀ h m, Run (SafetyStateMachine.machine safety) h m →
      Steps SafetyStateMachine.LatchHeld h ∧
      (Since (fun st => ¬SafetyStateMachine.Resets st) (fun st => st.after.state.Latched) h →
        m.state.Latched ∧
        ∀ t, (m.currentOutput t).throttle = 0 ∧ (m.currentOutput t).brake = 1)) ∧
    ∀ h w, Run (machine adapter built) h w →
      Steps LatchHeld h ∧
      (Since (fun st => ¬Resets st) (fun st => st.after.service.safety.state.Latched) h →
        w.service.safety.state.Latched ∧
        ∀ t, (w.service.safety.currentOutput t).throttle = 0 ∧
          (w.service.safety.currentOutput t).brake = 1) := by
  constructor
  · intro h m hrun
    refine ⟨hrun.always_of_invariant (I := fun _ => True) trivial (fun _ _ _ => trivial)
      fun s e _ => SafetyStateMachine.respond_latchHeld safety s e, fun hsince => ?_⟩
    have hlatched := hrun.holds_since (P := fun m => m.state.Latched)
      (fun m e => (SafetyStateMachine.respond_latchHeld safety m e).stays) hsince
    exact ⟨hlatched, SafetyStateMachine.currentOutput_latched hlatched⟩
  · intro h w hrun
    refine ⟨hrun.always_of_invariant (I := fun _ => True) trivial (fun _ _ _ => trivial)
      fun s e _ => respond_latchHeld adapter built s e, fun hsince => ?_⟩
    have hlatched := hrun.holds_since (P := fun w => w.service.safety.state.Latched)
      (fun w e => (respond_latchHeld adapter built w e).stays) hsince
    exact ⟨hlatched, SafetyStateMachine.currentOutput_latched hlatched⟩

/-! ## An accepted ESTOP -/

/-- An ESTOP that the receiver accepts. -/
def EstopArrives (st : ServiceStep σ) : Prop :=
  st.before.service.started = true ∧
  ∃ command t checked, st.event = .receiveCommand command t ∧ command.estop = true ∧
    st.before.service.Accepts command t checked

def Estopped (w : World σ) : Prop :=
  w.service.safety.state = .estop ∧ w.service.activeSessionProfile = none

/-- Calls without traction. -/
def Observation.Undriven : Observation → Prop
  | .called (.applyControl _) _ _ => False
  | .called (.applySafeStop output _) _ _ => output.throttle = 0
  | _ => True

theorem undriven_passive {c : AdapterCall} (hc : c.Passive) (r : Except Failure c.Result)
    (s : VehicleControlService) : (Observation.called c r s).Undriven := by
  cases c with
  | applyControl | applySafeStop => cases hc
  | _ => trivial

section
variable {adapter : VehicleAdapter σ} {start : VehicleControlService} {w w' : World σ}

theorem move_estopped {command : ControlCommand} {t : ℤ} (hestop : command.estop = true)
    (hmove : Move adapter start (.receiveCommand command t) w w') (h : Estopped w) :
    Estopped w' := by
  obtain ⟨hstate, hprofile⟩ := h
  have hlatched : w.service.safety.state.Latched := .inl hstate
  cases hmove with
  | revokes | stopsFirst => exact ⟨hstate, rfl⟩
  | ticks t =>
    refine ⟨?_, hprofile⟩
    show (w.service.safety.tick t).state = _
    rw [SafetyStateMachine.tick_of_latched hlatched]
    exact hstate
  | faults h =>
    obtain ⟨_, ⟨⟩⟩ | ⟨_, _, ⟨⟩, hordinary⟩ := h
    rw [hestop] at hordinary
    cases hordinary
  | latches =>
    refine ⟨?_, hprofile⟩
    show (w.service.safety.onValidCommand _ _).state = _
    rw [SafetyStateMachine.onValidCommand_state, hstate]
    simp
  | activates hguard =>
    obtain ⟨checked, haccepts, hordinary, -⟩ := hguard.accepted
    have hsame := (ControlCommand.validate_ok haccepts.validate).1
    rw [hestop, hordinary] at hsame
    cases hsame
  | _ => exact ⟨hstate, hprofile⟩

theorem admitCommand_estop {command : ControlCommand} {t : ℤ} {checked : DriverCommand}
    (hestop : command.estop = true) (haccepts : w.service.Accepts command t checked) :
    Ensures (admitCommand adapter command t) w
      (fun result w' => result.command = some checked ∧ Estopped w')
      fun _ _ => False := by
  have hsame := (ControlCommand.validate_ok haccepts.validate).1
  obtain ⟨result, receiver, haccept, hcommand⟩ := haccepts
  unfold admitCommand
  rw [if_pos hestop, ensures_bind]
  refine acceptCommand_ensures.mono ?_ ?_
  · rintro _ w₁ ⟨_, haccept', rfl⟩
    obtain ⟨rfl, rfl⟩ : result = _ ∧ receiver = _ :=
      Prod.mk.inj (Except.ok.inj (haccept.symm.trans haccept'))
    rw [hcommand]
    show Ensures (moveSafety _ >>= _) _ _ _
    rw [ensures_bind, ensures_moveSafety, ensures_bind]
    refine (clearSessionProfile_moves w.service (.receiveCommand command t)).mono ?_
      fun _ _ h => h
    rintro _ w' ⟨-, hservice⟩
    refine ⟨hcommand, ?_⟩
    show w'.service.safety.state = _ ∧ w'.service.activeSessionProfile = _
    rw [hservice]
    refine ⟨?_, rfl⟩
    show (w.service.safety.onValidCommand checked t).state = _
    rw [SafetyStateMachine.onValidCommand_state, if_pos (hsame.symm.trans hestop)]
  · rintro failure _ ⟨-, hfails⟩
    cases haccept.symm.trans hfails

theorem receiveCommand_estop {command : ControlCommand} {t : ℤ} {checked : DriverCommand}
    (hstarted : w.service.started = true) (hestop : command.estop = true)
    (haccepts : w.service.Accepts command t checked) :
    Ensures (receiveCommand adapter command t) w (fun _ w' => Estopped w') fun _ w' =>
      Estopped w' := by
  unfold receiveCommand
  rw [ensures_bind, ensures_getService, if_neg (by simp [hstarted]), ensures_bind]
  refine ((admitCommand_moves w.service rfl hstarted).and
    (admitCommand_estop hestop haccepts)).mono ?_ fun _ _ h => h.2.elim
  rintro result w₁ ⟨⟨-, hadmission⟩, hcommand, hestopped⟩
  have hkeeps : ∀ w', Ended adapter w.service (.receiveCommand command t) w₁ w' → Estopped w' :=
    fun w' hended => hended.keeps (fun _ _ => move_estopped hestop) (fun _ _ _ _ h => h) hestopped
  rw [hcommand]
  exact (handleAccepted_moves w.service result (hadmission checked hcommand)).mono
    (fun _ w' h => hkeeps w' h.ended) fun _ w' h => hkeeps w' h

theorem respond_estopped (adapter : VehicleAdapter σ) (built w : World σ) (e : Event)
    (h : EstopArrives ((machine adapter built).observe w e)) : Estopped (respond adapter w e).2 := by
  obtain ⟨hstarted, command, t, checked, heq, hestop, haccepts⟩ := h
  obtain rfl : e = .receiveCommand command t := heq
  exact respond_ensures adapter (Q := fun _ w' => Estopped w')
    ((ensures_map _ _).mpr
      (receiveCommand_estop (w := { w with trace := [] }) hstarted hestop haccepts))

/-- A service that is not started throws before it looks at the command. -/
theorem receiveCommand_not_started {adapter : VehicleAdapter σ} {w : World σ}
    {command : ControlCommand} {t : ℤ} (h : w.service.started = false) :
    Ensures (receiveCommand adapter command t) w (fun _ _ => False) fun _ w' => w' = w := by
  unfold receiveCommand
  rw [ensures_bind, ensures_getService, if_pos h]
  exact rfl

/-- Nothing but an accepted ESTOP leads into `Estop`. -/
theorem move_unestopped {w₁ w₂ : World σ} {e : Event}
    (hquiet : ∀ command t checked, e = .receiveCommand command t → command.estop = true →
      ¬start.Accepts command t checked)
    (hmove : Move adapter start e w₁ w₂) (h : w₁.service.safety.state ≠ .estop) :
    w₂.service.safety.state ≠ .estop := by
  cases hmove with
  | readies =>
    show w₁.service.safety.markReady.state ≠ _
    unfold SafetyStateMachine.markReady
    split
    · exact (nomatch ·)
    · exact h
  | ticks t =>
    show (w₁.service.safety.tick t).state ≠ _
    rcases w₁.service.safety.tick_state t with hsame | hsame | hsame <;> rw [hsame]
    · exact h
    · exact (nomatch ·)
    · exact (nomatch ·)
  | faults => exact (nomatch ·)
  | @latches command t _ checked remembered haccepts hsame _ =>
    have hordinary : ¬remembered.estop = true := by
      intro hestop
      have hcommand := (ControlCommand.validate_ok haccepts.validate).1
      exact hquiet command t checked rfl (hcommand.trans (hsame.symm.trans hestop)) haccepts
    show (w₁.service.safety.onValidCommand remembered t).state ≠ _
    rw [SafetyStateMachine.onValidCommand_state, if_neg hordinary]
    split
    · exact h
    · exact (nomatch ·)
  | @activates _ t _ c remembered _ hremembered _ =>
    have hordinary : ¬remembered.estop = true := by simp [hremembered]
    show ((_ : World σ).service.safety.onValidCommand remembered t).state ≠ _
    rw [SafetyStateMachine.onValidCommand_state, if_neg hordinary]
    split
    · exact h
    · exact (nomatch ·)
  | stands | releases => exact (nomatch ·)
  | _ => exact h

theorem respond_estop_entered (adapter : VehicleAdapter σ) (built w : World σ) (e : Event)
    (h : (respond adapter w e).2.service.safety.state = .estop) :
    w.service.safety.state = .estop ∨ EstopArrives ((machine adapter built).observe w e) := by
  by_contra hno
  obtain ⟨hbefore, hquiet⟩ := not_or.mp hno
  refine absurd h ?_
  by_cases hcommand : w.service.started = false ∧ ∃ command t, e = .receiveCommand command t
  · obtain ⟨hstopped, command, t, rfl⟩ := hcommand
    exact respond_ensures adapter (Q := fun _ w' => w'.service.safety.state ≠ .estop)
      ((ensures_map _ _).mpr
        ((receiveCommand_not_started (w := { w with trace := [] }) hstopped).mono
          (fun _ _ h => h.elim) fun _ w' hsame => by rw [hsame]; exact hbefore))
  · have hended : Ended adapter w.service e { w with trace := [] } (respond adapter w e).2 :=
      respond_ended adapter w e
    refine hended.keeps (I := fun w => w.service.safety.state ≠ .estop) ?_
      (fun _ _ _ _ h => h) hbefore
    refine fun _ _ => move_unestopped fun command t checked heq hestop haccepts => ?_
    refine hquiet ⟨?_, command, t, checked, heq, hestop, haccepts⟩
    by_contra hstopped
    exact hcommand ⟨Bool.eq_false_iff.mpr hstopped, command, t, heq⟩

theorem latchStop_returns (result : ReceiveResult) (remembered : DriverCommand) (t : ℤ) :
    Ensures (latchStop adapter result remembered t) w (fun result' _ => result' = result)
      fun _ _ => True := by
  unfold latchStop
  rw [ensures_bind, ensures_moveSafety, ensures_bind, ensures_getService]
  extract_lets latched done stopAdapter
  have hstopped : ∀ w₁ : World σ, Ensures (stopAdapter ()) w₁ (fun result' _ => result' = result)
      fun _ _ => True := by
    intro w₁
    show Ensures (call adapter _ >>= _) _ _ _
    rw [ensures_bind]
    exact ensures_of_forall (fun _ _ => rfl) fun _ _ => trivial
  refine Ensures.ite (fun _ => Ensures.ite (fun _ => ?_) fun _ => hstopped _) fun _ => rfl
  rw [ensures_bind]
  exact ensures_of_forall (fun _ w₁ => hstopped w₁) fun _ _ => trivial

/-- Once the receiver has accepted an ESTOP, it is answered with a command or thrown. -/
theorem handleAccepted_estop {result : ReceiveResult} {checked : DriverCommand} {t : ℤ}
    (hestop : checked.estop = true) (hresult : result.accepted = true) :
    Ensures (handleAccepted adapter result checked t) w
      (fun result' _ => result'.accepted = true ∧ result'.command.isSome = true)
      fun _ _ => True := by
  unfold handleAccepted
  rw [ensures_bind, ensures_getService, if_neg (by simp [hestop]), if_neg (by simp [hestop])]
  extract_lets limited
  have hlimited : limited.1.estop = true := hestop
  unfold observeAdapter
  rw [hlimited, if_pos rfl, ensures_bind, ensures_pure, ensures_bind]
  refine ensures_of_forall (fun _ w₁ => ?_) fun _ _ => trivial
  rw [ensures_bind, ensures_getService, if_pos rfl]
  unfold commitCommand
  rw [ensures_bind, ensures_getService]
  cases hremembered : safetyCommand w₁.service limited.1 with
  | error message => trivial
  | ok remembered =>
    dsimp only
    rw [if_neg (by simp [hlimited])]
    refine (latchStop_returns _ remembered t).mono ?_ fun _ _ h => h
    rintro result' _ rfl
    exact ⟨hresult, rfl⟩

/-- What is answered to an ESTOP: a command exactly when the receiver accepts it. -/
theorem receiveCommand_estop_answer {command : ControlCommand} {t : ℤ}
    (hstarted : w.service.started = true) (hestop : command.estop = true) :
    Ensures (receiveCommand adapter command t) w
      (fun result _ => (∃ checked, w.service.Accepts command t checked) ∧
          result.accepted = true ∧ result.command.isSome = true ∨
        (¬∃ checked, w.service.Accepts command t checked) ∧ result.command = none)
      fun _ _ => True := by
  unfold receiveCommand
  rw [ensures_bind, ensures_getService, if_neg (by simp [hstarted]), ensures_bind]
  unfold admitCommand
  rw [if_pos hestop, ensures_bind]
  refine acceptCommand_ensures.mono ?_ fun _ _ _ => trivial
  rintro result w₁ ⟨receiver, haccept, -⟩
  cases hcommand : result.command with
  | none =>
    have hrefused : ¬∃ checked, w.service.Accepts command t checked := by
      rintro ⟨checked, result', receiver', haccept', hcommand'⟩
      obtain ⟨rfl, -⟩ := Prod.mk.inj (Except.ok.inj (haccept.symm.trans haccept'))
      exact absurd (hcommand.symm.trans hcommand') (Option.some_ne_none checked).symm
    show Ensures (evaluateControlWatchdog adapter t >>= _) _ _ _
    rw [ensures_bind]
    refine ensures_of_forall (fun _ w₂ => ?_) fun _ _ => trivial
    rw [ensures_pure, hcommand]
    exact .inr ⟨hrefused, hcommand⟩
  | some effective =>
    have haccepts : w.service.Accepts command t effective := ⟨result, receiver, haccept, hcommand⟩
    have hsame := (ControlCommand.validate_ok haccepts.validate).1
    show Ensures (moveSafety _ >>= _) _ _ _
    rw [ensures_bind, ensures_moveSafety, ensures_bind]
    refine ensures_of_forall (fun _ w₂ => ?_) fun _ _ => trivial
    rw [ensures_pure, hcommand]
    have hresult : result.accepted = true := by
      rcases ControlReceiver.accept_carries haccept with ⟨-, hnone⟩ | ⟨valid, -, hcarries⟩
      · exact absurd (hnone.symm.trans hcommand) (Option.some_ne_none effective).symm
      · rcases hcarries with ⟨-, hnone⟩ | ⟨hyes, -⟩
        · exact absurd (hnone.symm.trans hcommand) (Option.some_ne_none effective).symm
        · exact hyes
    exact (handleAccepted_estop (hsame.symm.trans hestop) hresult).mono
      (fun _ _ h => .inl ⟨⟨effective, haccepts⟩, h⟩) fun _ _ h => h

/-- Under the latch no command reaches the adapter. -/
theorem respond_undriven (adapter : VehicleAdapter σ) (w : World σ) (e : Event)
    (h : w.service.safety.state.Latched) : ∀ o ∈ (respond adapter w e).2.trace, o.Undriven := by
  have hended : Ended adapter w.service e { w with trace := [] } (respond adapter w e).2 :=
    respond_ended adapter w e
  refine (hended.keeps (I := fun w => (w.service.safety.state.Latched ∨
      ∃ authorizedBy t, e = .resetEstop true authorizedBy t) ∧ ∀ o ∈ w.trace, o.Undriven)
    ?_ (fun _ _ _ houtput h => ⟨h.1, List.forall_mem_cons.mpr ⟨houtput.1, h.2⟩⟩)
    ⟨.inl h, by simp⟩).2
  rintro w₁ w₂ hmove ⟨hlatched, hundriven⟩
  refine ⟨?_, ?_⟩
  · rcases hlatched with hlatched | hreset
    · exact move_latched hmove hlatched
    · exact .inr hreset
  · cases hmove with
    | asks c hc => exact List.forall_mem_cons.mpr ⟨undriven_passive hc _ _, hundriven⟩
    | books | starts | closes | adopts => exact hundriven
    | revokes => exact List.forall_mem_cons.mpr ⟨undriven_passive (c := .clearRuntimeControlProfile) trivial _ _, hundriven⟩
    | stops output context houtput => exact List.forall_mem_cons.mpr ⟨houtput.1, hundriven⟩
    | stopsFirst output context houtput =>
      refine List.forall_mem_cons.mpr ⟨undriven_passive (c := .clearRuntimeControlProfile) trivial _ _, ?_⟩
      exact List.forall_mem_cons.mpr ⟨houtput.1, hundriven⟩
    | reapplies _ _ _ _ hreapplies =>
      obtain hlatched | ⟨_, _, ⟨⟩⟩ := hlatched
      have hactive := hreapplies.2.2.2.2
      rw [SafetyState.Latched, hactive] at hlatched
      simp at hlatched
    | accepts =>
      show ∀ o ∈ ite _ _ _, _
      split
      · exact List.forall_mem_cons.mpr ⟨trivial, hundriven⟩
      · exact hundriven
    | controls hguard =>
      obtain hlatched | ⟨_, _, ⟨⟩⟩ := hlatched
      have hstate := hguard.state
      rcases hlatched with hlatched | hlatched <;> simp [hlatched] at hstate
    | zeroes => exact List.forall_mem_cons.mpr ⟨rfl, hundriven⟩
    | _ => exact List.forall_mem_cons.mpr ⟨trivial, hundriven⟩

end

/-- An accepted ESTOP is in force when its operation ends, and no later operation drives the
vehicle before a reset. -/
def EstopLatches (st : ServiceStep σ) (past : History (World σ) Event Reply) : Prop :=
  (EstopArrives st → Estopped st.after) ∧
  (Since (fun st => ¬Resets st) EstopArrives past → ∀ o ∈ st.after.trace, o.Undriven)

theorem estop_latches (adapter : VehicleAdapter σ) (built : World σ)
    {h : History (World σ) Event Reply} {w : World σ} (hrun : Run (machine adapter built) h w) :
    Always EstopLatches h := by
  refine hrun.always_of_link (C := fun _ => True)
    (R := fun h w => Since (fun st => ¬Resets st) EstopArrives h → w.service.safety.state.Latched)
    (fun hsince => hsince.elim) ?_ ?_ (steps_true h)
  · rintro h w e - ih - (hestop | ⟨hquiet, hsince⟩)
    · exact .inl (respond_estopped adapter built w e hestop).1
    · exact ((respond_latchHeld adapter built w e).stays (ih hsince)).resolve_right hquiet
  · intro h w e _ ih _
    exact ⟨respond_estopped adapter built w e, fun hsince => respond_undriven adapter w e (ih hsince)⟩

/-- An ESTOP, a reset that is refused, a command under the latch, and the reset. -/
def estopRun : List Event :=
  [.start 0, .receiveCommand (benchCommand 1 10 "N" 0 0 0 true) 10, .resetEstop true "" 20,
    .receiveCommand (benchCommand 2 30 "D" 0 (1 / 2) 0 false) 30, .resetEstop true "operator" 40]

theorem estop_latches_estopRun :
    Always EstopLatches ((machine mock ⟨benchService, {}, []⟩).play estopRun).1 ∧
      ((machine mock ⟨benchService, {}, []⟩).play (estopRun.take 4)).2.service.safety.state =
        .estop ∧
      ((machine mock ⟨benchService, {}, []⟩).play estopRun).2.service.safety.state = .standby :=
  ⟨estop_latches mock _ (Run.play _ estopRun), by decide +kernel, by decide +kernel⟩

/-! ## Fault -/

/-- Fault is where Fault was. -/
def FaultKept (st : ServiceStep σ) : Prop :=
  st.before.service.safety.state = .fault → st.after.service.safety.state = .fault

instance (st : ServiceStep σ) : Decidable (FaultKept st) := inferInstanceAs (Decidable (_ → _))

theorem move_fault {adapter : VehicleAdapter σ} {start : VehicleControlService} {e : Event}
    {w w' : World σ}
    (hquiet : ∀ command t checked, e = .receiveCommand command t → command.estop = true →
      ¬start.Accepts command t checked)
    (hmove : Move adapter start e w w') (h : w.service.safety.state = .fault) :
    w'.service.safety.state = .fault := by
  have hlatched : w.service.safety.state.Latched := .inr h
  cases hmove with
  | readies =>
    show w.service.safety.markReady.state = _
    rw [SafetyStateMachine.markReady_of_latched hlatched]
    exact h
  | ticks t =>
    show (w.service.safety.tick t).state = _
    rw [SafetyStateMachine.tick_of_latched hlatched]
    exact h
  | faults => rfl
  | @latches command t _ checked remembered haccepts hsame _ =>
    have hordinary : ¬remembered.estop = true := by
      intro hestop
      have hcommand := (ControlCommand.validate_ok haccepts.validate).1
      exact hquiet command t checked rfl (hcommand.trans (hsame.symm.trans hestop)) haccepts
    show (w.service.safety.onValidCommand remembered t).state = _
    rw [SafetyStateMachine.onValidCommand_state, if_neg hordinary, h]
    simp
  | @activates _ _ w _ _ hguard =>
    change w.service.safety.state = .fault at h
    have hstate := hguard.state
    simp [h] at hstate
  | stands hfree => exact absurd hlatched hfree
  | releases _ hestop =>
    rw [h] at hestop
    cases hestop
  | _ => exact h

/-- From Fault, an operation leads to Fault unless it accepts an ESTOP. -/
theorem respond_fault_iff (adapter : VehicleAdapter σ) (built w : World σ) (e : Event)
    (h : w.service.safety.state = .fault) :
    (respond adapter w e).2.service.safety.state = .fault ↔
      ¬EstopArrives ((machine adapter built).observe w e) := by
  constructor
  · intro hfault harrives
    have hestop := (respond_estopped adapter built w e harrives).1
    rw [hfault] at hestop
    cases hestop
  · intro hquiet
    by_cases hcommand : w.service.started = false ∧ ∃ command t, e = .receiveCommand command t
    · obtain ⟨hstopped, command, t, rfl⟩ := hcommand
      exact respond_ensures adapter (Q := fun _ w' => w'.service.safety.state = .fault)
        ((ensures_map _ _).mpr
          ((receiveCommand_not_started (w := { w with trace := [] }) hstopped).mono
            (fun _ _ h => h.elim) fun _ w' hsame => by rw [hsame]; exact h))
    · have hended : Ended adapter w.service e { w with trace := [] } (respond adapter w e).2 :=
        respond_ended adapter w e
      refine hended.keeps (I := fun w => w.service.safety.state = .fault) ?_ (fun _ _ _ _ h => h) h
      refine fun _ _ => move_fault fun command t checked heq hestop haccepts => ?_
      refine hquiet ⟨?_, command, t, checked, heq, hestop, haccepts⟩
      by_contra hstopped
      exact hcommand ⟨Bool.eq_false_iff.mpr hstopped, command, t, heq⟩

/-- Fault is kept in every step exactly in the runs in which no ESTOP is accepted in Fault; in
these, what has once been Fault is Fault. -/
theorem fault_kept_iff (adapter : VehicleAdapter σ) (built : World σ)
    {h : History (World σ) Event Reply} {w : World σ} (hrun : Run (machine adapter built) h w) :
    (Steps FaultKept h ↔
      Steps (fun st => st.before.service.safety.state = .fault → ¬EstopArrives st) h) ∧
    (Steps (fun st => st.before.service.safety.state = .fault → ¬EstopArrives st) h →
      Since (fun _ => True) (fun st => st.after.service.safety.state = .fault) h →
      w.service.safety.state = .fault) := by
  constructor
  · refine hrun.always_iff fun h w e _ _ => ?_
    exact forall_congr' fun hfault => respond_fault_iff adapter built w e hfault
  · refine fun hquiet => hrun.link (R := fun h w =>
      Since (fun _ => True) (fun st => st.after.service.safety.state = .fault) h →
        w.service.safety.state = .fault) (fun hsince => hsince.elim) ?_ hquiet
    rintro h w e - ih hquiet (hfault | ⟨-, hsince⟩)
    · exact hfault
    · exact (respond_fault_iff adapter built w e (ih hsince)).mpr (hquiet (ih hsince))

/-- The mock adapter behind a bus that is lost. -/
def withoutFeedback : VehicleAdapter MockVehicleAdapter where
  answer
    | .pollFeedback, m => (.error (.runtimeError "can receive failed"), m)
    | c, m => mock.answer c m

/-- The tick finds the bus lost; an ESTOP and a reset follow. -/
def faultRun : List Event :=
  [.start 0, .tick 10, .receiveCommand (benchCommand 1 20 "N" 0 0 0 true) 20,
    .resetEstop true "operator" 30]

theorem fault_kept_fails :
    ∃ h w, Run (machine withoutFeedback ⟨benchService, {}, []⟩) h w ∧ ¬Steps FaultKept h ∧
      Since (fun _ => True) (fun st => st.after.service.safety.state = .fault) h ∧
      w.service.safety.state = .standby := by
  refine ⟨_, _, Run.play _ faultRun, ?_, ?_, ?_⟩
  all_goals decide +kernel

/-- The bus stays lost. -/
def lostRun : List Event := [.start 0, .tick 10, .tick 20]

theorem fault_kept_iff_lostRun :
    Since (fun _ => True) (fun st => st.after.service.safety.state = .fault)
        ((machine withoutFeedback ⟨benchService, {}, []⟩).play lostRun).1 ∧
      Steps (fun st => st.before.service.safety.state = .fault → ¬EstopArrives st)
        ((machine withoutFeedback ⟨benchService, {}, []⟩).play lostRun).1 := by
  have hrun := Run.play (machine withoutFeedback ⟨benchService, {}, []⟩) lostRun
  exact ⟨by decide +kernel, (fault_kept_iff withoutFeedback _ hrun).1.mp (by decide +kernel)⟩

end MineTeleop.Service
