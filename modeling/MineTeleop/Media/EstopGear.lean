import MineTeleop.Media.Heartbeat

/-!
# The gear of an ESTOP

The runtime forwards an ESTOP in the gear of the last fresh command that was accepted under the
admission in force, and keeps that gear for every later one of the transport.  The trusted gear
should end with the admission.  It does wherever the runtime learns of that end by itself; a
profile that the watchdog of the service has taken away leaves it behind.

Proved here, for every adapter:

* `receiveApply_frozen`: exactly an accepted ESTOP freezes its gear, and only the first;
* `gearInvariant_step`: the frozen gear and, under a profile, the trusted one are those of the
  history;
* `estop_gear_iff`: the law holds in exactly the runs in which no first ESTOP finds the gear of an
  admission that has ended;
* `estop_gear_fails`: a run in which one does.
-/

namespace MineTeleop.Media

open Programs
open Runs
open Service
open Stack (VehicleConfig)

variable {σ : Type}

/-! ## What has been accepted -/

/-- The receiver of the service accepts the command. -/
def admits (s : VehicleControlService) (command : ControlCommand) (utcMs : ℤ) : Bool :=
  match s.receiver.accept command utcMs with
  | .ok (result, _) => result.command.isSome
  | .error _ => false

theorem admits_iff {s : VehicleControlService} {command : ControlCommand} {utcMs : ℤ} :
    admits s command utcMs = true ↔ ∃ checked, s.Accepts command utcMs checked := by
  unfold admits VehicleControlService.Accepts
  constructor
  · intro h
    split at h
    · rename_i result receiver haccept
      obtain ⟨checked, hcommand⟩ := Option.isSome_iff_exists.mp h
      exact ⟨checked, result, receiver, haccept, hcommand⟩
    · cases h
  · rintro ⟨checked, result, receiver, haccept, hcommand⟩
    rw [haccept]
    exact Option.isSome_iff_exists.mpr ⟨checked, hcommand⟩

/-- The ESTOP reaches a service that accepts it: it is authentic, fresh and not replayed. -/
def AcceptsEstop (s : VehicleControlService) (command : ControlCommand) (utcMs : ℤ) : Prop :=
  command.estop = true ∧ s.started = true ∧ admits s command utcMs = true

instance (s : VehicleControlService) (command : ControlCommand) (utcMs : ℤ) :
    Decidable (AcceptsEstop s command utcMs) := inferInstanceAs (Decidable (_ ∧ _))

/-- The gear in which an accepted ESTOP was forwarded. -/
def acceptedEstopGear (st : Step (VehicleMediaRuntime σ) Event Reply) : Option String := do
  let utcMs ← st.event.utcMs?
  let w ← st.before.controlService
  let command ← st.after.forwarded
  if AcceptsEstop w.service command utcMs then some command.gear else none

/-! ## The epochs -/

/-- The event is a profile request that is accepted. -/
def profileAccepted (adapter : VehicleAdapter σ)
    (st : Step (VehicleMediaRuntime σ) Event Reply) : Bool :=
  match st.event with
  | .sessionControlProfile request utcMs =>
    match st.before.openService with
    | .ok w =>
      match (Service.respond adapter w (.receiveSessionProfile request utcMs)).1 with
      | .profile result => result.accepted
      | _ => false
    | .error _ => false
  | _ => false

/-- The event connects or disconnects the handshake. -/
def handshakeAccepted (adapter : VehicleAdapter σ)
    (st : Step (VehicleMediaRuntime σ) Event Reply) : Bool :=
  match st.event with
  | .vcuHandshakeCommand action =>
    match st.before.openService with
    | .ok w =>
      match VehicleMediaRuntime.handshakeOperation action with
      | some e => decide ((Service.respond adapter w e).1 = .answered true)
      | none => false
    | .error _ => false
  | _ => false

def restartsTransport (st : Step (VehicleMediaRuntime σ) Event Reply) : Bool :=
  match st.event with
  | .transportStarted => !st.before.stopRequested
  | _ => false

/-- The control channel opens or closes. -/
def linkChanges (st : Step (VehicleMediaRuntime σ) Event Reply) : Bool :=
  match st.event with
  | .channelOpened => !st.before.stopRequested
  | .channelClosed => st.before.controlLinkOpen
  | _ => false

/-- The admission ends, or a new one begins: no profile is in force behind the event, a profile or a
handshake was found not ready, one was renewed, or the link is another. -/
def endsAdmission (adapter : VehicleAdapter σ)
    (st : Step (VehicleMediaRuntime σ) Event Reply) : Bool :=
  !st.after.inForce || decide (st.after.admission = some false) || profileAccepted adapter st ||
    handshakeAccepted adapter st || linkChanges st || restartsTransport st

/-- The gear of the last fresh command that was accepted under the admission in force. -/
def admissionGear (adapter : VehicleAdapter σ) :
    History (VehicleMediaRuntime σ) Event Reply → Option Gear
  | [] => none
  | st :: past =>
    if endsAdmission adapter st then none else (freshGear st).or (admissionGear adapter past)

/-- The gear of the first ESTOP that was accepted since the transport started. -/
def frozenGear : History (VehicleMediaRuntime σ) Event Reply → Option String
  | [] => none
  | st :: past =>
    if restartsTransport st then none else (frozenGear past).or (acceptedEstopGear st)

/-! ## The law -/

/-- The gear that a control message asks for. -/
def Event.gear? : Event → Option String
  | .nativeControlMessage message _ _ => some message.command.gear
  | _ => none

structure EstopGearLaw (adapter : VehicleAdapter σ)
    (st : Step (VehicleMediaRuntime σ) Event Reply)
    (past : History (VehicleMediaRuntime σ) Event Reply) : Prop where
  frozen : ∀ gear ∈ frozenGear past, ∀ command ∈ st.after.forwarded, command.estop = true →
    command.gear = gear
  chosen : frozenGear past = none → ∀ gear ∈ acceptedEstopGear st, ∀ own ∈ st.event.gear?,
    gear = ((admissionGear adapter past).map Gear.text).getD own

/-- The first accepted ESTOP finds a profile in force, or no gear that it would change. -/
def GearInForce (st : Step (VehicleMediaRuntime σ) Event Reply)
    (past : History (VehicleMediaRuntime σ) Event Reply) : Prop :=
  frozenGear past = none → acceptedEstopGear st ≠ none → ∀ own ∈ st.event.gear?,
    st.before.inForce = true ∨
      ∀ gear ∈ st.before.nativeControlLastAcceptedFreshGear, gear.text = own

instance (st : Step (VehicleMediaRuntime σ) Event Reply)
    (past : History (VehicleMediaRuntime σ) Event Reply) : Decidable (GearInForce st past) :=
  inferInstanceAs (Decidable (_ → _ → ∀ _ ∈ _, _ ∨ ∀ _ ∈ _, _))

/-- The pipeline starts the transport before there is a service. -/
def TransportFirst (st : Step (VehicleMediaRuntime σ) Event Reply) : Prop :=
  restartsTransport st = true → st.before.controlService.isSome = false

instance (st : Step (VehicleMediaRuntime σ) Event Reply) : Decidable (TransportFirst st) :=
  inferInstanceAs (Decidable (_ → _))

/-! ## An ESTOP that is forwarded -/

section
variable (adapter : VehicleAdapter σ)

/-- What `receive_command` answers to an ESTOP, and when it leaves one latched. -/
theorem respond_estop_answer (w : World σ) {command : ControlCommand} (utcMs : ℤ)
    (hestop : command.estop = true) :
    let answer := Service.respond adapter w (.receiveCommand command utcMs)
    (AcceptsEstop w.service command utcMs ∧
        ((∃ result, answer.1 = .command result ∧ result.accepted = true ∧
            result.command.isSome = true) ∨
          (∃ failure, answer.1 = .threw failure) ∧ answer.2.service.safety.state = .estop)) ∨
      (¬AcceptsEstop w.service command utcMs ∧
        ((∃ result, answer.1 = .command result ∧ result.command = none) ∨
          (∃ failure, answer.1 = .threw failure) ∧
            (answer.2.service.safety.state = .estop → w.service.safety.state = .estop))) := by
  intro answer
  by_cases haccepts : AcceptsEstop w.service command utcMs
  · obtain ⟨-, hstarted, hadmits⟩ := haccepts
    refine .inl ⟨⟨hestop, hstarted, hadmits⟩, ?_⟩
    obtain ⟨checked, hchecked⟩ := admits_iff.mp hadmits
    have hestopped : Estopped answer.2 := respond_estopped adapter w w _
      ⟨hstarted, command, utcMs, checked, rfl, hestop, hchecked⟩
    refine respond_ensures adapter (w := w) (e := .receiveCommand command utcMs)
      (Q := fun reply _ => (∃ result, reply = .command result ∧ result.accepted = true ∧
          result.command.isSome = true) ∨
        (∃ failure, reply = .threw failure) ∧ answer.2.service.safety.state = .estop)
      ((ensures_map _ _).mpr ?_)
    refine (receiveCommand_estop_answer (w := { w with trace := [] }) hstarted hestop).mono ?_ ?_
    · rintro result _ (⟨-, haccepted, hcommand⟩ | ⟨hrefused, -⟩)
      · exact .inl ⟨result, rfl, haccepted, hcommand⟩
      · exact absurd ⟨checked, hchecked⟩ hrefused
    · exact fun failure _ _ => .inr ⟨⟨failure, rfl⟩, hestopped.1⟩
  · refine .inr ⟨haccepts, ?_⟩
    have hentered : answer.2.service.safety.state = .estop →
        w.service.safety.state = .estop := by
      intro hlatched
      rcases respond_estop_entered adapter w w _ hlatched with hbefore | ⟨hstarted, c, t, checked,
        heq, -, hchecked⟩
      · exact hbefore
      · cases heq
        exact absurd ⟨hestop, hstarted, admits_iff.mpr ⟨checked, hchecked⟩⟩ haccepts
    refine respond_ensures adapter (w := w) (e := .receiveCommand command utcMs)
      (Q := fun reply _ => (∃ result, reply = .command result ∧ result.command = none) ∨
        (∃ failure, reply = .threw failure) ∧ (answer.2.service.safety.state = .estop →
          w.service.safety.state = .estop)) ((ensures_map _ _).mpr ?_)
    cases hstarted : w.service.started with
    | false =>
      exact (receiveCommand_not_started (w := { w with trace := [] }) hstarted).mono
        (fun _ _ h => h.elim) fun failure _ _ => .inr ⟨⟨failure, rfl⟩, hentered⟩
    | true =>
      refine (receiveCommand_estop_answer (w := { w with trace := [] }) hstarted hestop).mono ?_ ?_
      · rintro result _ (⟨hyes, -⟩ | ⟨-, hcommand⟩)
        · exact absurd ⟨hestop, hstarted, admits_iff.mpr hyes⟩ haccepts
        · exact .inl ⟨result, rfl, hcommand⟩
      · exact fun failure _ _ => .inr ⟨⟨failure, rfl⟩, hentered⟩

/-- An accepted ESTOP freezes its gear, even when the adapter throws, unless one is frozen. -/
theorem receiveApply_frozen (r : VehicleMediaRuntime σ) (w : World σ) (command : ControlCommand)
    (gear : Gear) (intentFresh : Bool) (utcMs monotonicMs : ℤ)
    (hlatched : w.service.safety.state = .estop → r.nativeControlEstopFrozenGear ≠ none) :
    (r.receiveApply adapter w command gear intentFresh utcMs
        monotonicMs).2.nativeControlEstopFrozenGear =
      if AcceptsEstop w.service command utcMs ∧ r.nativeControlEstopFrozenGear = none then some gear
      else r.nativeControlEstopFrozenGear := by
  cases hestop : command.estop with
  | false =>
    have hno : ¬AcceptsEstop w.service command utcMs := fun h =>
      Bool.false_ne_true (hestop.symm.trans h.1)
    rw [if_neg fun h => hno h.1]
    unfold VehicleMediaRuntime.receiveApply
    extract_lets answer handed r₁ frozen
    have hfrozen : frozen = r.nativeControlEstopFrozenGear :=
      if_neg fun h => Bool.false_ne_true (hestop.symm.trans h.1)
    split
    · split
      · split
        · exact hfrozen
        · rfl
      · rfl
    · split
      · exact hfrozen
      · rfl
  | true =>
    unfold VehicleMediaRuntime.receiveApply
    extract_lets answer handed r₁ frozen
    have hanswer := respond_estop_answer adapter w utcMs hestop
    change _ ∧ ((∃ result, answer.1 = _ ∧ _) ∨ (∃ failure, answer.1 = _) ∧
        answer.2.service.safety.state = _) ∨
      _ ∧ ((∃ result, answer.1 = _ ∧ _) ∨ (∃ failure, answer.1 = _) ∧
        (answer.2.service.safety.state = _ → _)) at hanswer
    have hfrozen : frozen =
        if r.nativeControlEstopFrozenGear = none then some gear
        else r.nativeControlEstopFrozenGear := by
      show (if command.estop = true ∧ _ then _ else _) = _
      simp only [hestop, true_and]
      rfl
    rcases hanswer with ⟨haccepts, ⟨result, hreply, haccepted, hcommand⟩ |
      ⟨⟨failure, hreply⟩, hlatch⟩⟩ | ⟨hrefused, ⟨result, hreply, hcommand⟩ |
      ⟨⟨failure, hreply⟩, hlatch⟩⟩
    · obtain ⟨accepted, hcommand⟩ := Option.isSome_iff_exists.mp hcommand
      simp only [hreply, hcommand, haccepted, if_true, haccepts, true_and]
      exact hfrozen
    · simp only [hreply, hlatch, if_true, haccepts, true_and]
      exact hfrozen
    · simp only [hreply, hcommand, hrefused, false_and, if_false]
      rfl
    · simp only [hreply, hrefused, false_and, if_false]
      split
      · rename_i hestopped
        rw [hfrozen, if_neg (hlatched (hlatch hestopped))]
      · rfl

end

/-! ## The gear under an admission -/

section
variable (adapter : VehicleAdapter σ) (r : VehicleMediaRuntime σ)

/-- The gear is kept, or the event has found the admission gone, or no profile is left. -/
def KeepsGear (r r' : VehicleMediaRuntime σ) : Prop :=
  r'.nativeControlLastAcceptedFreshGear = r.nativeControlLastAcceptedFreshGear ∨
  r'.admission = some false ∨ r'.inForce = false

theorem noteAdmission_inForce (ready : Bool) : (r.noteAdmission ready).inForce = r.inForce := by
  cases ready <;> rfl

/-- A status message changes neither the service nor, unless it finds the admission gone, the
gear. -/
theorem sendVcuHandshakeStatus_gear : KeepsGear r (r.sendVcuHandshakeStatus adapter) := by
  unfold VehicleMediaRuntime.sendVcuHandshakeStatus
  split
  · exact .inl rfl
  split
  · exact .inr (.inl rfl)
  split
  · exact .inr (.inl rfl)
  extract_lets answer
  split
  · rename_i ready _
    cases ready with
    | true => exact .inl rfl
    | false => exact .inr (.inl rfl)
  · exact .inr (.inl rfl)

theorem sendVcuHandshakeStatus_inForce (h : r.inForce = false) :
    (r.sendVcuHandshakeStatus adapter).inForce = false := by
  have hquiet := quiet_sendVcuHandshakeStatus adapter r
  unfold VehicleMediaRuntime.sendVcuHandshakeStatus
  split
  · exact h
  split
  · rw [noteAdmission_inForce]
    exact h
  rename_i w hw
  split
  · rw [noteAdmission_inForce]
    exact h
  extract_lets answer
  have hservice : answer.2.service = w.service :=
    (handshakeAdmissionReady_consulted adapter r.config.fieldSafety.commissioningMode
      { w with trace := [] }).service
  have hasked : (r.withService answer.2).inForce = false := by
    rw [VehicleMediaRuntime.inForce, hw] at h
    show answer.2.service.activeSessionProfile.isSome = false
    rw [hservice]
    exact h
  split <;> rwa [noteAdmission_inForce]

/-- A closed service leaves no profile, whatever is reported of it. -/
theorem stopControl_inForce (context : Bridge.StopContext) :
    (r.stopControl adapter context).inForce = false :=
  sendVcuHandshakeStatus_inForce adapter _ rfl

theorem tickControlService_gear (utcMs : ℤ) : KeepsGear r (r.tickControlService adapter utcMs) := by
  unfold VehicleMediaRuntime.tickControlService
  split
  · exact .inl rfl
  split
  · exact .inl rfl
  extract_lets answer r₁
  split
  · exact .inr (.inr (sendVcuHandshakeStatus_inForce adapter _ rfl))
  · split
    · exact sendVcuHandshakeStatus_gear adapter r₁
    · exact .inl rfl

theorem startControlService_gear (createAdapter : VehicleConfig → Except Failure σ)
    (start : ControlStart) :
    KeepsGear r (r.startControlService adapter createAdapter start) := by
  unfold VehicleMediaRuntime.startControlService
  split_ifs
  · exact .inl rfl
  · exact .inl rfl
  · exact .inl rfl
  · exact .inl rfl
  extract_lets r₁
  split
  · exact .inr (.inr rfl)
  rename_i state _
  split
  · exact .inr (.inr rfl)
  rename_i service hservice
  extract_lets answer opened r₂
  split
  · exact .inr (.inr rfl)
  split
  · exact .inr (.inr rfl)
  split
  · exact .inr (.inr rfl)
  · refine .inr (.inr ?_)
    by_contra hforce
    have hafter : answer.2.service.activeSessionProfile.isSome = true :=
      Bool.eq_true_of_not_eq_false hforce
    have hstart : ∀ request t,
        Service.Event.start start.utcMs ≠ .receiveSessionProfile request t :=
      fun _ _ => (nomatch ·)
    have hbefore := profile_respond adapter _ _
      (fun result hreply => absurd hreply (respond_profile hstart result)) hafter
    rw [(Stack.createService_limits hservice).2.2] at hbefore
    cases hbefore

theorem handleSessionProfile_gear (request : SessionControlProfileRequest) (utcMs : ℤ)
    (h : ∀ w result, r.openService = .ok w →
      (Service.respond adapter w (.receiveSessionProfile request utcMs)).1 = .profile result →
      result.accepted = false) :
    (r.handleSessionProfile adapter request utcMs).nativeControlLastAcceptedFreshGear =
      r.nativeControlLastAcceptedFreshGear := by
  unfold VehicleMediaRuntime.handleSessionProfile
  split
  · rfl
  rename_i w hopen
  extract_lets answer
  split
  · rename_i result hreply
    rw [if_neg (by simp [h w result hopen hreply])]
    rfl
  · rfl

theorem handleHandshake_gear (action : String)
    (h : ∀ w e, r.openService = .ok w → VehicleMediaRuntime.handshakeOperation action = some e →
      (Service.respond adapter w e).1 ≠ .answered true) :
    KeepsGear r (r.handleHandshake adapter action) := by
  unfold VehicleMediaRuntime.handleHandshake
  split
  · exact sendVcuHandshakeStatus_gear adapter r
  rename_i w hopen
  extract_lets answer r₁ _ reported
  split
  · exact .inl rfl
  extract_lets r₂ r₃
  have hkept : r₂ = r₁ := by
    refine if_neg fun hanswered => ?_
    change answer.1 = _ at hanswered
    unfold answer at hanswered
    split at hanswered
    · rename_i e he
      exact h w e hopen he hanswered
    · exact absurd (Service.Reply.answered.inj hanswered) Bool.false_ne_true
  have hgear : r₃.nativeControlLastAcceptedFreshGear = r.nativeControlLastAcceptedFreshGear := by
    show r₂.nativeControlLastAcceptedFreshGear = _
    rw [hkept]
    rfl
  split
  · exact .inl hgear
  · have hsent := sendVcuHandshakeStatus_gear adapter r₃
    rwa [KeepsGear, hgear] at hsent

end

/-! ## The frozen gear -/

section
variable (adapter : VehicleAdapter σ) (r : VehicleMediaRuntime σ)

theorem noteAdmission_frozen (ready : Bool) :
    (r.noteAdmission ready).nativeControlEstopFrozenGear = r.nativeControlEstopFrozenGear := by
  cases ready <;> rfl

theorem close_frozen (context : Bridge.StopContext) :
    (r.close adapter context).nativeControlEstopFrozenGear = r.nativeControlEstopFrozenGear := by
  unfold VehicleMediaRuntime.close
  split <;> rfl

theorem closeControlService_frozen (context : Bridge.StopContext) :
    (r.closeControlService adapter context).nativeControlEstopFrozenGear =
      r.nativeControlEstopFrozenGear := by
  unfold VehicleMediaRuntime.closeControlService
  split
  · exact (close_frozen adapter _ _).trans (close_frozen adapter r context)
  · exact close_frozen adapter r _

theorem sendVcuHandshakeStatus_frozen :
    (r.sendVcuHandshakeStatus adapter).nativeControlEstopFrozenGear =
      r.nativeControlEstopFrozenGear := by
  unfold VehicleMediaRuntime.sendVcuHandshakeStatus
  split
  · rfl
  split
  · exact noteAdmission_frozen r false
  split
  · exact noteAdmission_frozen r false
  extract_lets answer
  split <;> exact noteAdmission_frozen _ _

theorem stopControl_frozen (context : Bridge.StopContext) :
    (r.stopControl adapter context).nativeControlEstopFrozenGear =
      r.nativeControlEstopFrozenGear :=
  (sendVcuHandshakeStatus_frozen adapter _).trans (closeControlService_frozen adapter _ context)

theorem startControlService_frozen (createAdapter : VehicleConfig → Except Failure σ)
    (start : ControlStart) :
    (r.startControlService adapter createAdapter start).nativeControlEstopFrozenGear =
      r.nativeControlEstopFrozenGear := by
  unfold VehicleMediaRuntime.startControlService
  split_ifs
  · rfl
  · rfl
  · rfl
  · rfl
  extract_lets r₁
  split
  · exact close_frozen adapter r₁ _
  split
  · exact close_frozen adapter r₁ _
  extract_lets answer opened r₂
  split
  · exact close_frozen adapter r₂ VehicleMediaRuntime.sessionLost
  split
  · exact (close_frozen adapter _ _).trans
      (close_frozen adapter r₂ ⟨.softwareFault, .criticalCameraFailed⟩)
  split
  · exact (close_frozen adapter _ _).trans
      (close_frozen adapter r₂ VehicleMediaRuntime.sessionLost)
  · rfl

theorem handleSessionProfile_frozen (request : SessionControlProfileRequest) (utcMs : ℤ) :
    (r.handleSessionProfile adapter request utcMs).nativeControlEstopFrozenGear =
      r.nativeControlEstopFrozenGear := by
  unfold VehicleMediaRuntime.handleSessionProfile
  split
  · rfl
  extract_lets answer
  split
  · split <;> rfl
  · rfl

theorem handleHandshake_frozen (action : String) :
    (r.handleHandshake adapter action).nativeControlEstopFrozenGear =
      r.nativeControlEstopFrozenGear := by
  unfold VehicleMediaRuntime.handleHandshake
  split
  · exact sendVcuHandshakeStatus_frozen adapter r
  extract_lets answer r₁ _ reported
  split
  · rfl
  extract_lets r₂ r₃
  have hfrozen : r₃.nativeControlEstopFrozenGear = r.nativeControlEstopFrozenGear := by
    show (if _ then _ else _ : VehicleMediaRuntime σ).nativeControlEstopFrozenGear = _
    split <;> rfl
  split
  · exact hfrozen
  · exact (sendVcuHandshakeStatus_frozen adapter r₃).trans hfrozen

theorem tickControlService_frozen (utcMs : ℤ) :
    (r.tickControlService adapter utcMs).nativeControlEstopFrozenGear =
      r.nativeControlEstopFrozenGear := by
  unfold VehicleMediaRuntime.tickControlService
  split
  · rfl
  split
  · rfl
  extract_lets answer r₁
  split
  · exact (sendVcuHandshakeStatus_frozen adapter _).trans
      (closeControlService_frozen adapter r₁ _)
  · split
    · exact sendVcuHandshakeStatus_frozen adapter r₁
    · rfl

theorem onControlChannelClose_frozen :
    (r.onControlChannelClose adapter).nativeControlEstopFrozenGear =
      r.nativeControlEstopFrozenGear := by
  unfold VehicleMediaRuntime.onControlChannelClose
  split
  · rfl
  split
  · exact closeControlService_frozen adapter _ _
  · rfl

end

/-! ## Events that are no control message -/

section
variable {adapter : VehicleAdapter σ} {createAdapter : VehicleConfig → Except Failure σ}
  {config : VehicleConfig} {r : VehicleMediaRuntime σ} {e : Event}

/-- Unless the admission ends, the gear is kept. -/
theorem event_keeps_gear
    (he : ∀ message utcMs monotonicMs, e ≠ .nativeControlMessage message utcMs monotonicMs)
    (h : endsAdmission adapter ((machine adapter createAdapter config).observe r e) = false) :
    (VehicleMediaRuntime.respond adapter createAdapter r e).2.nativeControlLastAcceptedFreshGear =
      r.nativeControlLastAcceptedFreshGear := by
  simp only [endsAdmission, Bool.or_eq_false_iff, Bool.not_eq_false', decide_eq_false_iff_not]
    at h
  obtain ⟨⟨⟨⟨⟨hforce, hadmission⟩, hprofile⟩, hhandshake⟩, hlink⟩, hrestart⟩ := h
  have hkept : ∀ {r' : VehicleMediaRuntime σ},
      r' = (VehicleMediaRuntime.respond adapter createAdapter r e).2 → KeepsGear r.unobserved r' →
      r'.nativeControlLastAcceptedFreshGear = r.nativeControlLastAcceptedFreshGear := by
    rintro _ rfl (hsame | hgone | hnone)
    · exact hsame
    · exact absurd hgone hadmission
    · exact absurd (hforce.symm.trans hnone) (Bool.noConfusion ·)
  cases e with
  | nativeControlMessage message utcMs monotonicMs =>
    exact absurd rfl (he message utcMs monotonicMs)
  | controlTick utcMs => exact hkept rfl (tickControlService_gear adapter _ utcMs)
  | sessionControlProfile request utcMs =>
    refine handleSessionProfile_gear adapter _ request utcMs fun w result hopen hreply => ?_
    change r.openService = .ok w at hopen
    simp only [profileAccepted, Machine.observe, hopen, hreply] at hprofile
    exact hprofile
  | vcuHandshakeCommand action =>
    refine hkept rfl (handleHandshake_gear adapter _ action fun w e hopen hoperation hreply => ?_)
    change r.openService = .ok w at hopen
    simp only [handshakeAccepted, Machine.observe, hopen, hoperation] at hhandshake
    exact absurd hreply (of_decide_eq_false hhandshake)
  | transportStarted =>
    have hstop : r.unobserved.stopRequested = true := Bool.not_inj (y := true) hrestart
    show (VehicleMediaRuntime.startNativeControlTransport _).nativeControlLastAcceptedFreshGear = _
    rw [VehicleMediaRuntime.startNativeControlTransport, if_pos hstop]
    rfl
  | channelOpened =>
    have hstop : r.unobserved.stopRequested = true := Bool.not_inj (y := true) hlink
    show (VehicleMediaRuntime.onControlChannelOpen _).nativeControlLastAcceptedFreshGear = _
    rw [VehicleMediaRuntime.onControlChannelOpen, if_pos hstop]
    rfl
  | channelClosed =>
    have hclosed : r.unobserved.controlLinkOpen = false := hlink
    show (VehicleMediaRuntime.onControlChannelClose _ _).nativeControlLastAcceptedFreshGear = _
    rw [VehicleMediaRuntime.onControlChannelClose, if_pos hclosed]
    rfl
  | serviceStarted start => exact hkept rfl (startControlService_gear adapter _ createAdapter start)
  | statusSent => exact hkept rfl (sendVcuHandshakeStatus_gear adapter _)
  | pipelineStopped => exact hkept rfl (.inr (.inr rfl))
  | pipelineFaulted => exact hkept rfl (.inr (.inr (stopControl_inForce adapter _ _)))
  | criticalCameraFailed => exact hkept rfl (.inr (.inr (stopControl_inForce adapter _ _)))
  | sessionEntered | attemptPrepared | stopRequested | controlInhibited => rfl

theorem handleSessionProfile_accepted {request : SessionControlProfileRequest} {utcMs : ℤ}
    (h : profileAccepted adapter ((machine adapter createAdapter config).observe r
      (.sessionControlProfile request utcMs)) = true) :
    (r.unobserved.handleSessionProfile adapter request
      utcMs).nativeControlLastAcceptedFreshGear = none := by
  simp only [profileAccepted, Machine.observe] at h
  unfold VehicleMediaRuntime.handleSessionProfile
  cases hopen : r.openService with
  | error reason => simp [hopen] at h
  | ok w =>
    have hopen' : r.unobserved.openService = .ok w := hopen
    simp only [hopen] at h
    simp only [hopen']
    cases hreply : (Service.respond adapter w (.receiveSessionProfile request utcMs)).1 with
    | profile result =>
      simp only [hreply] at h
      simp only [h, if_true]
      rfl
    | _ => simp [hreply] at h

theorem handleHandshake_accepted {action : String}
    (h : handshakeAccepted adapter ((machine adapter createAdapter config).observe r
      (.vcuHandshakeCommand action)) = true) :
    (r.unobserved.handleHandshake adapter action).nativeControlLastAcceptedFreshGear = none := by
  simp only [handshakeAccepted, Machine.observe] at h
  unfold VehicleMediaRuntime.handleHandshake
  split
  · rename_i reason hopen
    change r.openService = .error reason at hopen
    simp [hopen] at h
  rename_i w hopen
  change r.openService = .ok w at hopen
  simp only [hopen] at h
  extract_lets answer r₁ _ reported
  have hanswered : answer.1 = .answered true := by
    split at h
    · rename_i e hoperation
      show (match VehicleMediaRuntime.handshakeOperation action with
        | some e => Service.respond adapter w e
        | none => (.answered false, { w with trace := [] })).1 = _
      rw [hoperation]
      exact of_decide_eq_true h
    · cases h
  split
  · rename_i failure hthrew
    cases hthrew.symm.trans hanswered
  extract_lets r₂ r₃
  have hforgotten : r₃.nativeControlLastAcceptedFreshGear = none := by
    show (if _ then _ else _ : VehicleMediaRuntime σ).nativeControlLastAcceptedFreshGear = none
    rw [if_pos hanswered]
    rfl
  split
  · exact hforgotten
  · exact (quiet_sendVcuHandshakeStatus adapter r₃).gear.elim (·.trans hforgotten) id

/-- Behind an event that ends the admission no gear is trusted, unless no profile is left. -/
theorem event_forgets_gear
    (he : ∀ message utcMs monotonicMs, e ≠ .nativeControlMessage message utcMs monotonicMs)
    (h : endsAdmission adapter ((machine adapter createAdapter config).observe r e) = true)
    (hforce : (VehicleMediaRuntime.respond adapter createAdapter r e).2.inForce = true) :
    (VehicleMediaRuntime.respond adapter createAdapter r e).2.nativeControlLastAcceptedFreshGear =
      none := by
  have hquiet := quiet_event adapter createAdapter r he
  simp only [endsAdmission, Bool.or_eq_true, Bool.not_eq_true', decide_eq_true_eq] at h
  rcases h with ((((hnone | hgone) | hprofile) | hhandshake) | hlink) | hrestart
  · exact absurd (hforce.symm.trans hnone) (Bool.noConfusion ·)
  · exact hquiet.told (fun hno => nomatch hno) hgone
  · cases e with
    | sessionControlProfile request utcMs => exact handleSessionProfile_accepted hprofile
    | _ => cases hprofile
  · cases e with
    | vcuHandshakeCommand action => exact handleHandshake_accepted hhandshake
    | _ => cases hhandshake
  · cases e with
    | channelOpened =>
      have hstop : ¬r.unobserved.stopRequested = true :=
        Bool.eq_false_iff.mp (Bool.not_inj (y := false) hlink)
      show (VehicleMediaRuntime.onControlChannelOpen _).nativeControlLastAcceptedFreshGear = _
      rw [VehicleMediaRuntime.onControlChannelOpen, if_neg hstop]
      rfl
    | channelClosed =>
      have hopen : ¬r.unobserved.controlLinkOpen = false := fun hclosed =>
        Bool.noConfusion (Eq.trans (Eq.symm hclosed) hlink)
      show (VehicleMediaRuntime.onControlChannelClose _ _).nativeControlLastAcceptedFreshGear = _
      rw [VehicleMediaRuntime.onControlChannelClose, if_neg hopen]
      split
      · exact (quiet_closeControlService adapter _ _).gear.elim (fun hsame => hsame) id
      · rfl
    | _ => cases hlink
  · cases e with
    | transportStarted =>
      have hstop : ¬r.unobserved.stopRequested = true :=
        Bool.eq_false_iff.mp (Bool.not_inj (y := false) hrestart)
      show r.unobserved.startNativeControlTransport.nativeControlLastAcceptedFreshGear = none
      rw [VehicleMediaRuntime.startNativeControlTransport, if_neg hstop]
    | _ => cases hrestart

/-- Only the start of the transport forgets the frozen gear. -/
theorem event_frozen
    (he : ∀ message utcMs monotonicMs, e ≠ .nativeControlMessage message utcMs monotonicMs) :
    (VehicleMediaRuntime.respond adapter createAdapter r e).2.nativeControlEstopFrozenGear =
      if restartsTransport ((machine adapter createAdapter config).observe r e) then none
      else r.nativeControlEstopFrozenGear := by
  cases e with
  | nativeControlMessage message utcMs monotonicMs =>
    exact absurd rfl (he message utcMs monotonicMs)
  | controlTick utcMs => exact tickControlService_frozen adapter _ utcMs
  | sessionControlProfile request utcMs => exact handleSessionProfile_frozen adapter _ request utcMs
  | vcuHandshakeCommand action => exact handleHandshake_frozen adapter _ action
  | transportStarted =>
    show (VehicleMediaRuntime.startNativeControlTransport _).nativeControlEstopFrozenGear =
      if (!r.stopRequested) = true then none else _
    unfold VehicleMediaRuntime.startNativeControlTransport
    cases hstop : r.stopRequested with
    | true =>
      rw [if_pos (show r.unobserved.stopRequested = true from hstop)]
      rfl
    | false =>
      have hgo : ¬r.unobserved.stopRequested = true := Bool.eq_false_iff.mp hstop
      rw [if_neg hgo]
      rfl
  | channelOpened =>
    show (if _ then _ else _ : VehicleMediaRuntime σ).nativeControlEstopFrozenGear = _
    split <;> rfl
  | channelClosed => exact onControlChannelClose_frozen adapter _
  | serviceStarted start => exact startControlService_frozen adapter _ createAdapter start
  | statusSent => exact sendVcuHandshakeStatus_frozen adapter _
  | pipelineStopped => exact closeControlService_frozen adapter _ _
  | pipelineFaulted => exact stopControl_frozen adapter _ _
  | criticalCameraFailed => exact stopControl_frozen adapter _ _
  | sessionEntered | attemptPrepared | stopRequested | controlInhibited => rfl

end

/-! ## The invariant -/

/-- What the runtime remembers of the history. -/
structure GearInvariant (adapter : VehicleAdapter σ)
    (past : History (VehicleMediaRuntime σ) Event Reply) (r : VehicleMediaRuntime σ) : Prop where
  frozen : frozenGear past = r.nativeControlEstopFrozenGear.map Gear.text
  latched : Estops r → r.nativeControlEstopFrozenGear ≠ none
  trusted : r.inForce = true →
    admissionGear adapter past = r.nativeControlLastAcceptedFreshGear
  ended : r.inForce = false → admissionGear adapter past = none

section
variable {adapter : VehicleAdapter σ} {createAdapter : VehicleConfig → Except Failure σ}
  {config : VehicleConfig} {past : History (VehicleMediaRuntime σ) Event Reply}
  {st : Step (VehicleMediaRuntime σ) Event Reply} {r : VehicleMediaRuntime σ}

theorem admissionGear_step (adapter : VehicleAdapter σ)
    (st : Step (VehicleMediaRuntime σ) Event Reply)
    (past : History (VehicleMediaRuntime σ) Event Reply)
    (hforgets : endsAdmission adapter st = true → st.after.inForce = true →
      st.after.nativeControlLastAcceptedFreshGear = none)
    (hkeeps : endsAdmission adapter st = false → st.after.nativeControlLastAcceptedFreshGear =
      (freshGear st).or (admissionGear adapter past)) :
    (st.after.inForce = true →
      admissionGear adapter (st :: past) = st.after.nativeControlLastAcceptedFreshGear) ∧
    (st.after.inForce = false → admissionGear adapter (st :: past) = none) := by
  rw [admissionGear]
  cases hends : endsAdmission adapter st with
  | true =>
    rw [if_pos rfl]
    exact ⟨fun hafter => (hforgets hends hafter).symm, fun _ => rfl⟩
  | false =>
    rw [if_neg Bool.false_ne_true]
    refine ⟨fun _ => (hkeeps hends).symm, fun hafter => ?_⟩
    simp [endsAdmission, hafter] at hends

theorem acceptedEstopGear_none (h : st.after.forwarded = none) : acceptedEstopGear st = none := by
  unfold acceptedEstopGear
  rw [h]
  cases st.event.utcMs? with
  | none => rfl
  | some utcMs => cases st.before.controlService <;> rfl

/-- An event that is no control message. -/
theorem gearInvariant_event {e : Event} (hi : GearInvariant adapter past r)
    (hfirst : TransportFirst ((machine adapter createAdapter config).observe r e))
    (he : ∀ message utcMs monotonicMs, e ≠ .nativeControlMessage message utcMs monotonicMs) :
    GearInvariant adapter ((machine adapter createAdapter config).observe r e :: past)
      ((machine adapter createAdapter config).step r e).2 := by
  have hquiet := quiet_event adapter createAdapter r he
  have hfrozen : ((machine adapter createAdapter config).step r e).2.nativeControlEstopFrozenGear =
      if restartsTransport ((machine adapter createAdapter config).observe r e) then none
      else r.nativeControlEstopFrozenGear := event_frozen he
  have hfresh : freshGear ((machine adapter createAdapter config).observe r e) = none := by
    cases e with
    | nativeControlMessage message utcMs monotonicMs =>
      exact absurd rfl (he message utcMs monotonicMs)
    | _ => rfl
  have hestop : acceptedEstopGear ((machine adapter createAdapter config).observe r e) = none :=
    acceptedEstopGear_none hquiet.forwarded
  have hadmission := admissionGear_step adapter _ past (event_forgets_gear he) fun hends => by
    rw [hfresh, Option.none_or]
    cases hforce : r.inForce with
    | true => exact (event_keeps_gear he hends).trans (hi.trusted hforce).symm
    | false =>
      rw [hi.ended hforce]
      have hafter : (VehicleMediaRuntime.respond adapter createAdapter r e).2.inForce = true := by
        by_contra hnone
        have hnone := Bool.eq_false_of_not_eq_true hnone
        simp [endsAdmission, Machine.observe, machine, hnone] at hends
      rcases hquiet.inForce hafter with hbefore | hgear
      · exact absurd (hforce.symm.trans hbefore) Bool.false_ne_true
      · exact hgear
  refine ⟨?_, fun hlatched => ?_, hadmission.1, hadmission.2⟩
  · rw [frozenGear, hestop, hfrozen, Option.or_none]
    split
    · rfl
    · exact hi.frozen
  · have hbefore : Estops r := hquiet.estop hlatched
    rw [hfrozen, if_neg fun hrestart => ?_]
    · exact hi.latched hbefore
    · obtain ⟨w, hw, -⟩ := hbefore
      have hgone : r.controlService.isSome = false := hfirst hrestart
      rw [Option.mem_def.mp hw] at hgone
      cases hgone

/-- A control message that does not reach the service. -/
theorem gearInvariant_refused {message : NativeControlMessage} {utcMs monotonicMs : ℤ}
    (hi : GearInvariant adapter past st.before)
    (hevent : st.event = .nativeControlMessage message utcMs monotonicMs)
    (hreply : ∀ result, st.output ≠ .received result)
    (h : Refused st.before.unobserved st.after) : GearInvariant adapter (st :: past) st.after := by
  have hforce : st.after.inForce = st.before.inForce := by
    have hservice := congrArg (fun o => Option.any
      (fun s : VehicleControlService => s.activeSessionProfile.isSome) o) h.service
    rw [Option.any_map, Option.any_map] at hservice
    exact hservice
  have hfresh : freshGear st = none :=
    (freshGear_message hevent).trans (acceptedGear_refused _ _ hreply)
  have hends : endsAdmission adapter st =
      (!st.after.inForce || decide (st.after.admission = some false)) := by
    simp [endsAdmission, profileAccepted, handshakeAccepted, linkChanges, restartsTransport, hevent]
  have hadmission := admissionGear_step adapter st past
    (fun hended hafter => ?_) fun hended => ?_
  · refine ⟨?_, fun hlatched => ?_, hadmission.1, hadmission.2⟩
    · have hrestart : restartsTransport st = false := by simp [restartsTransport, hevent]
      rw [frozenGear, hrestart, if_neg Bool.false_ne_true,
        acceptedEstopGear_none h.quiet.forwarded, Option.or_none, h.frozen]
      exact hi.frozen
    · rw [h.frozen]
      exact hi.latched (h.quiet.estop hlatched)
  · rw [hends, hafter] at hended
    exact h.quiet.told (fun hno => nomatch hno) (of_decide_eq_true hended)
  · rw [hends, Bool.or_eq_false_iff] at hended
    rw [hfresh, Option.none_or, hi.trusted (hforce ▸ Bool.not_inj (y := true) hended.1)]
    exact h.gear.resolve_right (of_decide_eq_false hended.2)

/-- `receive_command` opens no admission, and shows the command it was given. -/
theorem receiveApply_noted (adapter : VehicleAdapter σ) (r : VehicleMediaRuntime σ) (w : World σ)
    (command : ControlCommand) (gear : Gear) (intentFresh : Bool) (utcMs monotonicMs : ℤ) :
    (r.receiveApply adapter w command gear intentFresh utcMs monotonicMs).2.admission =
        r.admission ∧
      (r.receiveApply adapter w command gear intentFresh utcMs monotonicMs).2.forwarded =
        some command := by
  unfold VehicleMediaRuntime.receiveApply
  extract_lets answer handed r₁ frozen
  split
  · split
    · split <;> exact ⟨rfl, rfl⟩
    · exact ⟨rfl, rfl⟩
  · split <;> exact ⟨rfl, rfl⟩

theorem acceptedEstopGear_forwarded {message : NativeControlMessage} {utcMs monotonicMs : ℤ}
    {w : World σ} {command : ControlCommand}
    (hevent : st.event = .nativeControlMessage message utcMs monotonicMs)
    (hw : st.before.controlService = some w) (hforwarded : st.after.forwarded = some command) :
    acceptedEstopGear st =
      if AcceptsEstop w.service command utcMs then some command.gear else none := by
  unfold acceptedEstopGear
  rw [hevent, hw, hforwarded]
  rfl

/-- What a control message that reaches the service brings with it. -/
structure Received (adapter : VehicleAdapter σ) (st : Step (VehicleMediaRuntime σ) Event Reply)
    (message : NativeControlMessage) (utcMs monotonicMs : ℤ) (w : World σ)
    (command : ControlCommand) (gear : Gear) (checked : DriverCommand) : Prop where
  event : st.event = .nativeControlMessage message utcMs monotonicMs
  valid : message.command.validate = .ok checked
  service : st.before.controlService = some w
  estop : command.estop = checked.estop
  chosen : command.estop = true →
    gear = st.before.estopGear checked.gear ∧ command.gear = gear.text
  applied : ∃ r₁ w₁, Applied r₁ message.command.estop message.intentFresh
      (Service.respond adapter w₁ (.receiveCommand command utcMs)).2 (st.output, st.after) ∧
    r₁.nativeControlLastAcceptedFreshGear = st.before.nativeControlLastAcceptedFreshGear ∧
    w₁.service = w.service
  admission : st.after.admission = none
  forwarded : st.after.forwarded = some command
  frozen : (w.service.safety.state = .estop → st.before.nativeControlEstopFrozenGear ≠ none) →
    st.after.nativeControlEstopFrozenGear =
      if AcceptsEstop w.service command utcMs ∧ st.before.nativeControlEstopFrozenGear = none then
        some gear
      else st.before.nativeControlEstopFrozenGear

/-- A control message is refused or received. -/
theorem message_cases (adapter : VehicleAdapter σ)
    (createAdapter : VehicleConfig → Except Failure σ) (config : VehicleConfig)
    (r : VehicleMediaRuntime σ) (message : NativeControlMessage)
    (utcMs monotonicMs : ℤ) :
    let st := (machine adapter createAdapter config).observe r
      (.nativeControlMessage message utcMs monotonicMs)
    ((∀ result, st.output ≠ .received result) ∧ Refused r.unobserved st.after) ∨
      ∃ w command gear checked,
        Received adapter st message utcMs monotonicMs w command gear checked := by
  intro st
  have houtcome := handleControlMessage_outcome adapter r.unobserved message utcMs monotonicMs
  generalize hout : VehicleMediaRuntime.handleControlMessage adapter r.unobserved message
    utcMs monotonicMs = out at houtcome
  have hst : (st.output, st.after) = out := hout
  cases houtcome with
  | refused hreply hrefused =>
    obtain ⟨houtput, hafter⟩ := Prod.mk.inj hst
    exact .inl ⟨houtput ▸ hreply, hafter ▸ hrefused⟩
  | @received r₁ w w₁ command gear checked hvalid hrefused hgear hadmission hw hservice hestop
      hcommand hchosen hstale =>
    have happlied := receiveApply_applied adapter r₁ w₁ command gear message.intentFresh utcMs
      monotonicMs
    have hnoted := receiveApply_noted adapter r₁ w₁ command gear message.intentFresh utcMs
      monotonicMs
    have hfrozen := receiveApply_frozen adapter r₁ w₁ command gear message.intentFresh utcMs
      monotonicMs
    rw [← hst] at happlied hnoted hfrozen
    rw [hestop] at happlied
    rw [hservice, hrefused.frozen] at hfrozen
    have hsame : command.estop = checked.estop :=
      hestop.trans (ControlCommand.validate_ok hvalid).1
    exact .inr ⟨w, command, gear, checked, rfl, hvalid, hw, hsame, fun h => hchosen (hsame ▸ h),
      ⟨r₁, w₁, happlied, hgear, hservice⟩, hnoted.1.trans hadmission, hnoted.2, hfrozen⟩

section
variable {message : NativeControlMessage} {utcMs monotonicMs : ℤ} {w : World σ}
  {command : ControlCommand} {gear : Gear} {checked : DriverCommand}

theorem Received.frozenGear_step
    (h : Received adapter st message utcMs monotonicMs w command gear checked)
    (hi : GearInvariant adapter past st.before) :
    frozenGear (st :: past) = st.after.nativeControlEstopFrozenGear.map Gear.text := by
  have hrestart : restartsTransport st = false := by simp [restartsTransport, h.event]
  have hlatched : w.service.safety.state = .estop →
      st.before.nativeControlEstopFrozenGear ≠ none :=
    fun hestop => hi.latched ⟨w, h.service, hestop⟩
  rw [frozenGear, hrestart, if_neg Bool.false_ne_true,
    acceptedEstopGear_forwarded h.event h.service h.forwarded, h.frozen hlatched, hi.frozen]
  by_cases haccepts : AcceptsEstop w.service command utcMs
  · rw [if_pos haccepts, (h.chosen haccepts.1).2]
    cases st.before.nativeControlEstopFrozenGear with
    | none =>
      rw [if_pos ⟨haccepts, rfl⟩]
      rfl
    | some first =>
      rw [if_neg fun hnone => nomatch hnone.2]
      rfl
  · rw [if_neg haccepts, if_neg fun hnone => haccepts hnone.1, Option.or_none]

theorem Received.latched (h : Received adapter st message utcMs monotonicMs w command gear checked)
    (hi : GearInvariant adapter past st.before) (hlatched : Estops st.after) :
    st.after.nativeControlEstopFrozenGear ≠ none := by
  have hbefore : w.service.safety.state = .estop →
      st.before.nativeControlEstopFrozenGear ≠ none :=
    fun hestop => hi.latched ⟨w, h.service, hestop⟩
  rw [h.frozen hbefore]
  split
  · exact Option.some_ne_none gear
  · rename_i hno
    obtain ⟨r₁, w₁, happlied, -, hservice⟩ := h.applied
    obtain ⟨w', hw', hestop⟩ := hlatched
    obtain rfl := Option.some.inj (happlied.service.symm.trans hw')
    rcases respond_estop_entered adapter w₁ w₁ _ hestop with hlatched | ⟨hstarted, c, t, accepted,
      heq, hestopped, haccepts⟩
    · exact hbefore (hservice ▸ hlatched)
    · cases heq
      change w₁.service.Accepts command utcMs accepted at haccepts
      change w₁.service.started = true at hstarted
      rw [hservice] at haccepts hstarted
      exact fun hnone => hno ⟨⟨hestopped, hstarted, admits_iff.mpr ⟨accepted, haccepts⟩⟩, hnone⟩

/-- A control message that reaches the service. -/
theorem gearInvariant_received
    (h : Received adapter st message utcMs monotonicMs w command gear checked)
    (hi : GearInvariant adapter past st.before) : GearInvariant adapter (st :: past) st.after := by
  obtain ⟨r₁, w₁, happlied, hgear, hservice⟩ := h.applied
  have hends : endsAdmission adapter st = !st.after.inForce := by
    simp [endsAdmission, profileAccepted, handshakeAccepted, linkChanges, restartsTransport,
      h.event, h.admission]
  have hforce : st.after.inForce = true → st.before.inForce = true := by
    intro hafter
    rw [VehicleMediaRuntime.inForce, happlied.service] at hafter
    have hcommand : ∀ request t, Service.Event.receiveCommand command utcMs ≠
        .receiveSessionProfile request t := by
      intro request t heq
      cases heq
    have hbefore := profile_respond adapter w₁ (.receiveCommand command utcMs)
      (fun result hreply => absurd hreply (respond_profile hcommand result)) hafter
    rw [VehicleMediaRuntime.inForce, h.service]
    show w.service.activeSessionProfile.isSome = true
    exact hservice ▸ hbefore
  have hadmission := admissionGear_step adapter st past
    (fun hended hafter => ?_) fun hended => ?_
  · exact ⟨h.frozenGear_step hi, h.latched hi, hadmission.1, hadmission.2⟩
  · rw [hends, hafter] at hended
    cases hended
  · rw [hends] at hended
    rw [happlied.gear, freshGear_message h.event, hgear,
      hi.trusted (hforce (Bool.not_inj (y := true) hended))]

end

/-! ## Every run -/

theorem gearInvariant_step (hi : GearInvariant adapter past r) (e : Event)
    (hfirst : TransportFirst ((machine adapter createAdapter config).observe r e)) :
    GearInvariant adapter ((machine adapter createAdapter config).observe r e :: past)
      ((machine adapter createAdapter config).step r e).2 := by
  rcases event_cases e with ⟨message, utcMs, monotonicMs, rfl⟩ | ⟨-, he⟩
  · rcases message_cases adapter createAdapter config r message utcMs monotonicMs with
      ⟨hreply, hrefused⟩ | ⟨w, command, gear, checked, hreceived⟩
    · exact gearInvariant_refused hi rfl hreply hrefused
    · exact gearInvariant_received hreceived hi
  · exact gearInvariant_event hi hfirst he

theorem gearInvariant_init : GearInvariant adapter [] (machine adapter createAdapter config).init :=
  ⟨rfl, fun ⟨_, hw, _⟩ => absurd hw (Option.not_mem_none _), fun _ => rfl, fun _ => rfl⟩

/-- Nothing is forwarded by an event that hands no command to the service. -/
theorem estopGearLaw_silent (h : st.after.forwarded = none) : EstopGearLaw adapter st past := by
  refine ⟨fun _ _ command hcommand => ?_, fun _ gear hgear => ?_⟩
  · rw [h] at hcommand
    exact absurd hcommand (Option.not_mem_none command)
  · rw [acceptedEstopGear_none h] at hgear
    exact absurd hgear (Option.not_mem_none gear)

theorem gearInForce_silent (h : st.after.forwarded = none) : GearInForce st past :=
  fun _ haccepted => absurd (acceptedEstopGear_none h) haccepted

/-- A forwarded ESTOP has the gear of the law, unless it takes one of an ended admission. -/
theorem estopGearLaw_received {message : NativeControlMessage} {utcMs monotonicMs : ℤ} {w : World σ}
    {command : ControlCommand} {gear : Gear} {checked : DriverCommand}
    (hi : GearInvariant adapter past st.before)
    (h : Received adapter st message utcMs monotonicMs w command gear checked) :
    EstopGearLaw adapter st past ↔ GearInForce st past := by
  have hown : checked.gear.text = message.command.gear := ControlCommand.validate_gear h.valid
  have hasked : st.event.gear? = some message.command.gear := by
    rw [h.event]
    rfl
  have haccepted := acceptedEstopGear_forwarded h.event h.service h.forwarded
  have hlater : ∀ first ∈ frozenGear past, ∀ c ∈ st.after.forwarded, c.estop = true →
      c.gear = first := by
    intro first hfirst c hc hestop
    obtain rfl := Option.some.inj (h.forwarded.symm.trans hc)
    obtain ⟨hchosen, htext⟩ := h.chosen hestop
    rw [hi.frozen] at hfirst
    obtain ⟨kept, hkept, rfl⟩ := Option.map_eq_some_iff.mp hfirst
    rw [htext, hchosen, VehicleMediaRuntime.estopGear, hkept]
    rfl
  -- The first one takes the trusted gear, in force or not.
  have hfirst : frozenGear past = none → ∀ first ∈ acceptedEstopGear st,
      first = (st.before.nativeControlLastAcceptedFreshGear.map Gear.text).getD
        message.command.gear := by
    intro hnone first hgear
    rw [haccepted] at hgear
    split at hgear
    · rename_i haccepts
      obtain ⟨hchosen, htext⟩ := h.chosen haccepts.1
      rw [hi.frozen, Option.map_eq_none_iff] at hnone
      rw [← Option.some.inj hgear, htext, hchosen, VehicleMediaRuntime.estopGear, hnone, ← hown]
      cases st.before.nativeControlLastAcceptedFreshGear <;> rfl
    · cases hgear
  constructor
  · intro hlaw hnone hsome own hgear
    obtain rfl := Option.some.inj (hasked.symm.trans hgear)
    cases hforce : st.before.inForce with
    | true => exact .inl rfl
    | false =>
      obtain ⟨first, haccepted⟩ := Option.ne_none_iff_exists'.mp hsome
      have hlawful := hlaw.chosen hnone first haccepted _ hgear
      rw [hi.ended hforce] at hlawful
      refine .inr fun trusted htrusted => ?_
      have hsubstituted := hfirst hnone first haccepted
      rw [htrusted] at hsubstituted
      exact hsubstituted.symm.trans hlawful
  · intro hcond
    refine ⟨hlater, fun hnone first haccepted own hgear => ?_⟩
    obtain rfl := Option.some.inj (hasked.symm.trans hgear)
    have hsubstituted := hfirst hnone first haccepted
    have hsome : acceptedEstopGear st ≠ none := Option.ne_none_iff_exists'.mpr ⟨first, haccepted⟩
    cases hforce : st.before.inForce with
    | true =>
      rw [hi.trusted hforce]
      exact hsubstituted
    | false =>
      have hequal := (hcond hnone hsome _ hgear).resolve_left (Bool.eq_false_iff.mp hforce)
      rw [hi.ended hforce, hsubstituted]
      cases htrusted : st.before.nativeControlLastAcceptedFreshGear with
      | none => rfl
      | some trusted => exact hequal trusted htrusted

theorem estopGearLaw_step (hi : GearInvariant adapter past r) (e : Event) :
    EstopGearLaw adapter ((machine adapter createAdapter config).observe r e) past ↔
      GearInForce ((machine adapter createAdapter config).observe r e) past := by
  have hsilent : ∀ st : Step (VehicleMediaRuntime σ) Event Reply, st.after.forwarded = none →
      (EstopGearLaw adapter st past ↔ GearInForce st past) :=
    fun st h => iff_of_true (estopGearLaw_silent h) (gearInForce_silent h)
  rcases event_cases e with ⟨message, utcMs, monotonicMs, rfl⟩ | ⟨-, he⟩
  · rcases message_cases adapter createAdapter config r message utcMs monotonicMs with
      ⟨-, hrefused⟩ | ⟨w, command, gear, checked, hreceived⟩
    · exact hsilent _ hrefused.quiet.forwarded
    · exact estopGearLaw_received hi hreceived
  · exact hsilent _ (quiet_event adapter createAdapter r he).forwarded

/-- The gear of every forwarded ESTOP is that of the law in exactly the runs in which no first one
finds the gear of an admission that has ended. -/
theorem estop_gear_iff {h : History (VehicleMediaRuntime σ) Event Reply}
    (hr : Run (machine adapter createAdapter config) h r) (hfirst : Steps TransportFirst h) :
    Always (EstopGearLaw adapter) h ↔ Always GearInForce h :=
  (hr.always_of_link (R := GearInvariant adapter) gearInvariant_init
    (fun _ _ e _ hi hc => gearInvariant_step hi e hc)
    (fun _ _ e _ hi _ => estopGearLaw_step hi e) hfirst).congr

end

/-! ## The gear of an admission that has ended -/

def benchEstop (seq : ℕ) (utcMs : ℤ) (gear : String) : NativeControlMessage :=
  { command := benchCommand seq utcMs gear 0 0 0 true
    intentSeq := 1
    intentFresh := true }

/-- Two ESTOPs of an admission in `D`, the later one in another gear again. -/
def frozenEvents : List Event :=
  activeEvents ++
  [.nativeControlMessage (benchEstop 2 1100 "N") 1100 1100,
    .nativeControlMessage (benchEstop 3 1200 "R") 1200 1200]

/-- The watchdog stops the vehicle and takes the profile, and an ESTOP follows. -/
def abandonedEvents : List Event :=
  activeEvents ++
  [.controlTick 1800,
    .nativeControlMessage (benchEstop 2 1900 "N") 1900 1900]

theorem estop_gear_iff_frozen :
    (benchMachine.play frozenEvents).2.forwarded.map (·.gear) = some "D" ∧
    (Always (EstopGearLaw mock) (benchMachine.play frozenEvents).1 ↔
      Always GearInForce (benchMachine.play frozenEvents).1) :=
  ⟨by decide +kernel, estop_gear_iff (Run.play benchMachine frozenEvents) (by decide +kernel)⟩

/-- The ESTOP asks for `N` under no admission, and goes out in the `D` of the last one. -/
theorem estop_gear_fails :
    Steps TransportFirst (benchMachine.play abandonedEvents).1 ∧
      ¬Always (EstopGearLaw mock) (benchMachine.play abandonedEvents).1 := by
  refine ⟨by decide +kernel, fun halways => ?_⟩
  have hplay : abandonedEvents = (activeEvents ++ [.controlTick 1800]) ++
      [.nativeControlMessage (benchEstop 2 1900 "N") 1900 1900] := rfl
  rw [hplay, Machine.play_concat] at halways
  have hfound : let before := benchMachine.play (activeEvents ++ [.controlTick 1800])
      frozenGear before.1 = none ∧ admissionGear mock before.1 = none ∧
      acceptedEstopGear (benchMachine.observe before.2
        (.nativeControlMessage (benchEstop 2 1900 "N") 1900 1900)) = some "D" := by
    decide +kernel
  obtain ⟨hfrozen, hended, haccepted⟩ := hfound
  have hgear := halways.1.chosen hfrozen "D" haccepted "N" rfl
  rw [hended] at hgear
  exact absurd hgear (by decide)

end MineTeleop.Media
