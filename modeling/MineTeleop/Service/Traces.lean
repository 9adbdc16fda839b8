import MineTeleop.Service.Agreement

/-!
# What the trace of an operation shows

Proved here, for every adapter:

* `shown_respond`: a control that reaches the adapter in `receive_command` is the limited form of a
  command that the receiver accepts, a stop gives no traction, and only such a command brings the
  service into `ControlActive`;
* `admitted_respond`: the profile in force has passed its checks.
-/

namespace MineTeleop.Service

open Programs

variable {σ : Type}

/-- The service is still under the limits and the profile that the operation began with. -/
structure SameAuthority (start s : VehicleControlService) : Prop where
  limits : vehicleLimits s = vehicleLimits start
  profile : ∀ profile ∈ s.activeSessionProfile, profile ∈ start.activeSessionProfile

/-- What a call of the operation `e` carries: `start` is the service it began with, `s` the service
at the call. -/
def AdapterCall.Caused (start : VehicleControlService) (e : Event) (s : VehicleControlService) :
    AdapterCall → Prop
  | .applyControl c => ∀ command t, e = .receiveCommand command t →
      SameAuthority start s ∧
      ∃ checked, start.Accepts command t checked ∧ c = (s.limitCommand checked).1
  | .applySafeStop output _ => StopOutput s output ∨ ∃ confirmed authorizedBy t,
      e = .resetEstop confirmed authorizedBy t
  | _ => True

/-- How `ControlActive` is entered from the state `before`. -/
def Activated (start : VehicleControlService) (e : Event) (before : SafetyState) : Prop :=
  before = .controlActive ∨ ∃ command t checked, e = .receiveCommand command t ∧
    start.Accepts command t checked ∧ checked.estop = false ∧
    (start.safety.tick t).state = before ∧ before ∉ [.timeoutBrake, .estop, .fault] ∧
    (before = .degraded → checked.Neutral)

/-- What an operation shows of itself. -/
def Observation.Shown (start : VehicleControlService) (e : Event) : Observation → Prop
  | .called c _ s => c.Caused start e s
  | .safetyChanged before after => after = .controlActive → Activated start e before
  | .commandAccepted _ => True

/-- The trace so far, and under whose authority a command is received. -/
structure TraceShown (start : VehicleControlService) (e : Event) (w : World σ) : Prop where
  trace : ∀ o ∈ w.trace, o.Shown start e
  authority : ∀ command t, e = .receiveCommand command t → SameAuthority start w.service

section
variable {adapter : VehicleAdapter σ} {start : VehicleControlService} {e : Event} {w w' : World σ}

theorem shown_after {c : AdapterCall} (h : ∀ o ∈ w.trace, o.Shown start e)
    (hc : c.Caused start e w.service) : ∀ o ∈ (w.after adapter c).trace, o.Shown start e :=
  List.forall_mem_cons.mpr ⟨hc, h⟩

theorem shown_moved {f : SafetyStateMachine → SafetyStateMachine}
    (h : ∀ o ∈ w.trace, o.Shown start e)
    (hf : (f w.service.safety).state = .controlActive → Activated start e w.service.safety.state) :
    ∀ o ∈ (w.moved f).trace, o.Shown start e :=
  List.forall_mem_cons.mpr ⟨hf, h⟩

theorem sameAuthority_move {command : ControlCommand} {t : ℤ}
    (hmove : Move adapter start (.receiveCommand command t) w w')
    (h : SameAuthority start w.service) : SameAuthority start w'.service := by
  refine ⟨(vehicleLimits_move hmove).trans h.limits, ?_⟩
  cases hmove with
  | revokes | stopsFirst => exact fun profile hp => absurd hp (Option.not_mem_none profile)
  | _ => exact h.profile

theorem shown_move (hmove : Move adapter start e w w') (h : TraceShown start e w) :
    TraceShown start e w' := by
  have hauthority : ∀ command t, e = .receiveCommand command t → SameAuthority start w'.service := by
    rintro command t rfl
    exact sameAuthority_move hmove (h.authority command t rfl)
  refine ⟨?_, hauthority⟩
  cases hmove with
  | asks c hpassive =>
    refine shown_after h.trace ?_
    cases c with
    | applyControl | applySafeStop => exact hpassive.elim
    | _ => trivial
  | books | starts | closes | adopts => exact h.trace
  | revokes => exact List.forall_mem_cons.mpr ⟨trivial, h.trace⟩
  | stops _ _ houtput => exact shown_after h.trace (.inl houtput)
  | stopsFirst _ _ houtput =>
    exact List.forall_mem_cons.mpr ⟨trivial, shown_after h.trace (.inl houtput)⟩
  | configures => exact shown_after h.trace trivial
  | reapplies => exact shown_after h.trace fun _ _ heq => (nomatch heq)
  | controls hguard =>
    obtain ⟨checked, haccepts, -, hlimited, -⟩ := hguard.accepted
    refine shown_after h.trace fun command t heq => ?_
    cases heq
    exact ⟨h.authority _ _ rfl, checked, haccepts, hlimited⟩
  | zeroes => exact shown_after h.trace (.inr ⟨_, _, _, rfl⟩)
  | readies =>
    refine shown_moved h.trace fun hactive => ?_
    unfold SafetyStateMachine.markReady at hactive
    split at hactive
    · cases hactive
    · exact .inl hactive
  | ticks t =>
    refine shown_moved h.trace fun hactive => ?_
    rcases SafetyStateMachine.tick_state w.service.safety t with hsame | hdegraded | htimeout
    · exact .inl (hsame.symm.trans hactive)
    · rw [hdegraded] at hactive
      cases hactive
    · rw [htimeout] at hactive
      cases hactive
  | faults => exact shown_moved h.trace fun hactive => (nomatch hactive)
  | @accepts command t _ result =>
    show ∀ o ∈ (if result.accepted = true then _ else _), _
    split
    · exact List.forall_mem_cons.mpr ⟨trivial, h.trace⟩
    · exact h.trace
  | @latches _ t _ _ remembered _ hestop hlatches =>
    refine shown_moved h.trace fun hactive => ?_
    have hlatched : (w.service.safety.onValidCommand remembered t).state = .estop ∨
        (w.service.safety.onValidCommand remembered t).state = .fault :=
      SafetyStateMachine.onValidCommand_latched (hlatches.imp hestop.trans id) t
    rcases hlatched with hlatched | hlatched
    · rw [hlatched] at hactive
      cases hactive
    · rw [hlatched] at hactive
      cases hactive
  | @activates command t _ c remembered hguard =>
    obtain ⟨checked, haccepts, hestop, -, hneutral⟩ := hguard.accepted
    have hmoved := shown_moved (f := (·.onValidCommand remembered t)) h.trace fun _ =>
      .inr ⟨command, t, checked, rfl, haccepts, hestop,
        congrArg SafetyStateMachine.state hguard.watchdog.symm, hguard.state, hneutral⟩
    exact hmoved
  | stands | releases => exact shown_moved h.trace fun hactive => (nomatch hactive)

theorem shown_respond (adapter : VehicleAdapter σ) (w : World σ) (e : Event) :
    ∀ o ∈ (respond adapter w e).2.trace, o.Shown w.service e := by
  have hshown : TraceShown w.service e (respond adapter w e).2 :=
    (respond_ended adapter w e).keeps (fun _ _ => shown_move)
      (fun _ _ _ houtput h => ⟨shown_after h.trace (.inl houtput), h.authority⟩)
      ⟨fun _ ho => absurd ho List.not_mem_nil, fun _ _ _ => ⟨rfl, fun _ hp => hp⟩⟩
  exact hshown.trace

/-! ## The profile in force -/

theorem admitted_move (hmove : Move adapter start e w w')
    (h : ∀ profile ∈ w.service.activeSessionProfile, profile.Admitted) :
    ∀ profile ∈ w'.service.activeSessionProfile, profile.Admitted := by
  cases hmove with
  | revokes | stopsFirst => exact fun profile hp => absurd hp (Option.not_mem_none profile)
  | adopts hdecide =>
    intro profile hp
    obtain rfl := Option.some.inj hp
    exact (decideProfile_proceeds hdecide).1.admitted
  | _ => exact h

theorem admitted_respond (adapter : VehicleAdapter σ) (w : World σ) (e : Event)
    (h : ∀ profile ∈ w.service.activeSessionProfile, profile.Admitted) :
    ∀ profile ∈ (respond adapter w e).2.service.activeSessionProfile, profile.Admitted :=
  (respond_ended adapter w e).keeps
    (I := fun w' => ∀ profile ∈ w'.service.activeSessionProfile, profile.Admitted)
    (fun _ _ => admitted_move) (fun _ _ _ _ h => h) h

end

end MineTeleop.Service
