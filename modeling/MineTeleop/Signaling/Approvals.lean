import MineTeleop.Signaling.ExclusiveRuns
import MineTeleop.Signaling.Waning

/-!
# How approvals are made, decided and used up

Proved here, for every configuration and every circumstances:

* `cleanupMobileApprovals_checks`: an approval that is live after the cleanup stands, and its
  deadline was still to come when the clock was read;
* `createSession_uses`: a session on a vehicle that needs an approval is created from an approval
  that had been given, and uses it up;
* `mobileDecision_decides`: only a pending approval is decided.
-/

namespace MineTeleop.Signaling

open Documents Programs Tables

variable {config : SignalingServerConfig} {w : Circumstances} {c c' : Call}

/-! ## What the cleanup leaves -/

/-- The approval is backed by its parties, and was in time when the clock was last read. -/
structure Timely (w : Circumstances) (service : SignalingService) (vehicleId : String)
    (approval : MobileApproval) : Prop where
  stands : service.Stands vehicleId approval
  deadline : ∃ n, w.steady n < approval.deadline

theorem driverIs_iff {service : SignalingService} {driverId : String} {generation : ℕ} :
    service.DriverIs driverId generation ↔
      (service.presence (.driver driverId)).map (·.generation) = some generation :=
  Option.map_eq_some_iff.symm

theorem vehicleIs_iff {service : SignalingService} {vehicleId : String} {generation : ℕ} :
    service.VehicleIs vehicleId generation ↔
      (service.presence (.vehicle vehicleId)).map (·.generation) = some generation :=
  Option.map_eq_some_iff.symm

theorem Timely.of_standing (h : c'.standing = c.standing) {vehicleId : String}
    {approval : MobileApproval} (htimely : Timely w c.service vehicleId approval) :
    Timely w c'.service vehicleId approval := by
  obtain ⟨⟨hdriver, hvehicle, hdrivers, hvehicles⟩, hdeadline⟩ := htimely
  have hgeneration := fun party => congrArg (·.generation party) h
  refine ⟨⟨?_, ?_, ?_, ?_⟩, hdeadline⟩
  · exact driverIs_iff.mpr ((hgeneration (.driver _)).trans (driverIs_iff.mp hdriver))
  · exact vehicleIs_iff.mpr ((hgeneration (.vehicle _)).trans (vehicleIs_iff.mp hvehicle))
  · exact fun hrevoked => hdrivers ((congrArg (_ ∈ ·.revokedDrivers) h).mp hrevoked)
  · exact fun hrevoked => hvehicles ((congrArg (_ ∈ ·.revokedVehicles) h).mp hrevoked)

/-- An approval for which no end is found is timely. -/
theorem approvalEnd_none (vehicleId : String) (approval : MobileApproval) :
    Ensures (approvalEnd w vehicleId approval) c
      (fun found _ => found = none → Timely w c.service vehicleId approval) fun _ _ => True := by
  unfold approvalEnd
  rw [ensures_bind, ensures_theService]
  refine .ite (fun _ hnone => absurd hnone (Option.some_ne_none _)) fun hstands => ?_
  simp only [steadyNow, ensures_bind, ensures_look]
  exact .ite (fun _ hnone => absurd hnone (Option.some_ne_none _)) fun hdeadline _ =>
    ⟨not_not.mp hstands, _, not_le.mp hdeadline⟩

/-- What one turn of the cleanup leaves of the approvals. -/
structure Checked (w : Circumstances) (vehicleId : String) (c c' : Call) : Prop where
  standing : c'.standing = c.standing
  others : ∀ id, id ≠ vehicleId →
    c'.service.mobileApprovals.lookup id = c.service.mobileApprovals.lookup id
  self : ∀ approval, c'.service.mobileApprovals.lookup vehicleId = some approval →
    approval.state.Live → Timely w c'.service vehicleId approval

theorem cleanupMobileApproval_checks (vehicleId : String) :
    Ensures (cleanupMobileApproval w vehicleId) c (fun _ => Checked w vehicleId c)
      fun _ _ => True := by
  unfold cleanupMobileApproval
  rw [ensures_bind, ensures_theService]
  cases hfound : c.service.mobileApprovals.lookup vehicleId with
  | none => exact ⟨rfl, fun _ _ => rfl, fun _ h => absurd (hfound.symm.trans h) (by simp)⟩
  | some approval =>
    refine .whenever (fun _ => ?_) fun hended => ?_
    swap
    · refine ⟨rfl, fun _ _ => rfl, fun approval' hfound' hlive => absurd hlive ?_⟩
      obtain rfl := Option.some.inj (hfound.symm.trans hfound')
      exact hended
    rw [ensures_bind]
    refine ((approvalEnd_ends vehicleId approval).and (approvalEnd_none vehicleId approval)).mono
      ?_ fun _ _ _ => trivial
    rintro found c₁ ⟨⟨haside, hends⟩, htimely⟩
    have happrovals := haside.approvals
    cases found with
    | none =>
      show Checked w vehicleId c c₁
      refine ⟨haside.standing, fun id _ => by rw [happrovals], fun approval' hfound' _ => ?_⟩
      rw [happrovals] at hfound'
      obtain rfl := Option.some.inj (hfound.symm.trans hfound')
      exact (htimely rfl).of_standing haside.standing
    | some next =>
      unfold endApproval
      rw [ensures_bind, ensures_update]
      have hrest : Within Aside (do
          let details ← MobileApproval.details w vehicleId { approval with state := next }
          let _ ← tryAudit w ⟨"mobile_approval_" ++ next.text, details⟩) :=
        (Aside.details _ _).bind fun _ => (Aside.tryAudit _).bind fun _ => .pure _
      refine (hrest _).mono (fun _ c₂ h₂ => ?_) fun _ _ _ => trivial
      refine ⟨h₂.standing.trans haside.standing, fun id hid => ?_, fun approval' hfound' hlive => ?_⟩
      · rw [h₂.approvals]
        exact (AList.lookup_insert_ne hid).trans (by rw [happrovals])
      · rw [h₂.approvals] at hfound'
        obtain rfl := Option.some.inj ((AList.lookup_insert _).symm.trans hfound')
        exact absurd hlive (hends next rfl).not_live

/-- Every approval that is live after the cleanup is timely. -/
theorem cleanupMobileApprovals_checks :
    Ensures (cleanupMobileApprovals w) c
      (fun _ c' => ∀ vehicleId approval,
        c'.service.mobileApprovals.lookup vehicleId = some approval → approval.state.Live →
        Timely w c'.service vehicleId approval)
      fun _ _ => True := by
  unfold cleanupMobileApprovals loopOver
  simp only [ensures_bind, ensures_theService, ensures_look]
  refine Ensures.forM (I := fun rest c' => ∀ vehicleId approval,
    c'.service.mobileApprovals.lookup vehicleId = some approval → approval.state.Live →
    vehicleId ∉ rest → Timely w c'.service vehicleId approval) ?_ ?_ ?_
  · intro vehicleId rest c₁ h₁
    refine (cleanupMobileApproval_checks vehicleId).mono (fun _ c₂ h₂ => ?_) fun _ _ => id
    intro id approval hfound hlive hrest
    by_cases hid : id = vehicleId
    · subst hid
      exact h₂.self approval hfound hlive
    · refine (h₁ id approval ((h₂.others id hid).symm.trans hfound) hlive ?_).of_standing
        h₂.standing
      exact List.not_mem_cons_of_ne_of_not_mem hid hrest
  · intro c₁ h₁
    rw [nowMs, ensures_look, ensures_update]
    intro vehicleId approval hfound hlive
    have htimely := h₁ vehicleId approval hfound hlive List.not_mem_nil
    exact ⟨htimely.stands, htimely.deadline⟩
  · intro vehicleId approval hfound _ hrest
    exact absurd ((w.order_perm _ _).mem_iff.mpr (Table.mem_keys_of_lookup hfound)) hrest

/-! ## A connection request -/

/-- A new approval, as it is asked for. -/
structure AskedFor (config : SignalingServerConfig) (w : Circumstances)
    (driverId vehicleId : String) (standing : Standing) (approval : MobileApproval) : Prop where
  pending : approval.state = .pending
  owner : approval.driverId = driverId
  driver : standing.generation (.driver driverId) = some approval.driverGeneration
  vehicle : standing.generation (.vehicle vehicleId) = some approval.vehicleGeneration
  deadline : ∃ n, approval.deadline = w.steady n + config.mobileApprovalTimeoutMs * 10 ^ 6

/-- At most one approval is new, the one that the request asks for. -/
def Asking (config : SignalingServerConfig) (w : Circumstances) (driverId vehicleId : String)
    (c c' : Call) : Prop :=
  ∀ id approval', c'.service.mobileApprovals.lookup id = some approval' →
    (∃ approval, c.service.mobileApprovals.lookup id = some approval ∧
      approval.Becomes approval') ∨
    (id = vehicleId ∧ AskedFor config w driverId vehicleId c'.standing approval')

section
variable {driverId vehicleId : String}

theorem Wanes.asking (h : Wanes c c') : Asking config w driverId vehicleId c c' :=
  fun id approval' hfound => .inl (h id approval' hfound)

theorem Asking.after {c'' : Call} (h : Wanes c c')
    (h' : Asking config w driverId vehicleId c' c'') :
    Asking config w driverId vehicleId c c'' := by
  intro id approval'' hfound''
  rcases h' id approval'' hfound'' with ⟨approval', hfound', hbecomes'⟩ | hasked
  · obtain ⟨approval, hfound, hbecomes⟩ := h id approval' hfound'
    exact .inl ⟨approval, hfound, hbecomes.trans hbecomes'⟩
  · exact .inr hasked

theorem generationAt_found {presences : Table ConnectionPresence} (id : String) :
    Ensures (generationAt presences id) c
      (fun generation c' => c' = c ∧ (presences.lookup id).map (·.generation) = some generation)
      fun _ c' => c' = c := by
  unfold generationAt
  cases presences.lookup id with
  | none => exact rfl
  | some presence => exact ⟨rfl, rfl⟩

theorem requestMobileApproval_asks :
    Ensures (requestMobileApproval config w driverId vehicleId) c (fun _ _ => False)
      fun _ => Asking config w driverId vehicleId c := by
  unfold requestMobileApproval
  rw [ensures_bind]
  refine (Aside.randomToken c).mono (fun token c₁ h₁ => ?_) fun _ _ h => h.unasked.wanes.asking
  have hwanes : Wanes c c₁ := h₁.unasked.wanes
  rw [ensures_bind, ensures_theService, ensures_bind]
  refine (generationAt_found driverId).mono ?_ fun _ _ h => h ▸ hwanes.asking
  rintro driverGeneration _ ⟨rfl, hdriver⟩
  rw [ensures_bind, ensures_theService, ensures_bind]
  refine (generationAt_found vehicleId).mono ?_ fun _ _ h => h ▸ hwanes.asking
  rintro vehicleGeneration c₂ ⟨rfl, hvehicle⟩
  simp only [nowMs, steadyNow, ensures_bind, ensures_look, MobileApproval.details, ensures_pure,
    ensures_tryAudit]
  refine .refuseIf (fun _ => ?_) fun _ => hwanes.asking
  rw [ensures_update, ensures_throw]
  intro id approval' hfound'
  replace hfound' := (Table.lookup_insert _).symm.trans hfound'
  split at hfound'
  · rename_i hsame
    obtain rfl := Option.some.inj hfound'
    exact .inr ⟨hsame, rfl, rfl, hdriver, hvehicle, _, rfl⟩
  · exact .inl (hwanes id approval' hfound')

/-- The vehicle has an approval that was given to the driver. -/
def Given (w : Circumstances) (driverId vehicleId : String) (c : Call) : Prop :=
  ∃ approval, c.service.mobileApprovals.lookup vehicleId = some approval ∧
    approval.state = .approved ∧ approval.driverId = driverId ∧ Timely w c.service vehicleId approval

theorem judgeApproval_granted {found : Option MobileApproval}
    (h : judgeApproval driverId found = .ok true) :
    ∃ approval, found = some approval ∧ approval.state = .approved ∧
      approval.driverId = driverId := by
  cases found with
  | none => cases h
  | some approval =>
    obtain ⟨_, hbusy, h⟩ := Service.bind_ok h
    obtain ⟨_, -, h⟩ := Service.bind_ok h
    obtain ⟨_, -, h⟩ := Service.bind_ok h
    have hgiven : approval.state = .approved := of_decide_eq_true (Except.ok.inj h)
    refine ⟨approval, rfl, hgiven, ?_⟩
    by_contra hother
    exact rejectIf_ok hbusy ⟨.inr (.inl hgiven), hother⟩

theorem requireMobileApproval_gives (requestId : String) :
    Ensures (requireMobileApproval config w driverId vehicleId requestId) c
      (fun _ c' => Wanes c c' ∧ (config.RequiresApproval vehicleId → Given w driverId vehicleId c'))
      fun _ => Asking config w driverId vehicleId c := by
  have hrefl : Wanes c c := Std.Refl.refl c
  unfold requireMobileApproval
  refine .ite (fun hfree => ?_) fun hrequires => ?_
  · exact .refuseIf (fun _ => ⟨hrefl, fun h => absurd h hfree⟩) fun _ => hrefl.asking
  rw [ensures_bind]
  refine ((cleanupMobileApprovals_wanes c).and cleanupMobileApprovals_checks).mono ?_
    fun _ _ h => h.1.asking
  rintro _ c₁ ⟨hwanes, htimely⟩
  rw [ensures_bind, ensures_theService]
  dsimp only
  have hnamed : Ensures (whenever (requestId ≠ "") (liftResult
      (checkNamedApproval driverId requestId (c₁.service.mobileApprovals.lookup vehicleId)))) c₁
      (fun _ c' => c' = c₁) fun _ c' => c' = c₁ :=
    .whenever (fun _ => .liftResult (fun _ _ => rfl) fun _ _ => rfl) fun _ => rfl
  rw [ensures_bind]
  refine hnamed.mono ?_ fun _ _ h => h ▸ hwanes.asking
  rintro _ _ rfl
  rw [ensures_bind]
  refine .liftResult (fun granted hjudged => ?_) fun _ _ => hwanes.asking
  refine .whenever (fun _ => ?_) fun hgranted => ⟨hwanes, fun _ => ?_⟩
  · exact requestMobileApproval_asks.mono (fun _ _ => False.elim) fun _ _ h => h.after hwanes
  · rw [Bool.not_eq_false] at hgranted
    subst hgranted
    obtain ⟨approval, hfound, hgiven, howner⟩ := judgeApproval_granted hjudged
    exact ⟨approval, hfound, hgiven, howner, htimely vehicleId approval hfound (.inr (.inl hgiven))⟩

/-! ### Using an approval up -/

/-- The approval of the vehicle has been used up, and the others are what they were. -/
structure Used (w : Circumstances) (driverId vehicleId : String) (c c' : Call) : Prop where
  others : ∀ id, id ≠ vehicleId → ∀ approval',
    c'.service.mobileApprovals.lookup id = some approval' →
    ∃ approval, c.service.mobileApprovals.lookup id = some approval ∧ approval.Becomes approval'
  self : ∃ approval sessionId, c.service.mobileApprovals.lookup vehicleId = some approval ∧
    approval.state = .approved ∧ approval.driverId = driverId ∧
    Timely w c'.service vehicleId approval ∧
    c'.service.mobileApprovals.lookup vehicleId =
      some { approval with state := .consumed, sessionId := sessionId }

/-- A live approval has not come to its end. -/
theorem MobileApproval.Becomes.live {approval approval' : MobileApproval}
    (h : approval.Becomes approval') (hlive : approval'.state.Live) : approval' = approval := by
  rcases h with rfl | rfl | rfl
  · rfl
  all_goals simp [ApprovalState.Live] at hlive

theorem ApprovalState.live_approved : ApprovalState.approved.Live := .inr (.inl rfl)

theorem Wanes.approved (h : Wanes c c') {approval : MobileApproval} {id : String}
    (hfound : c'.service.mobileApprovals.lookup id = some approval)
    (hlive : approval.state.Live) : c.service.mobileApprovals.lookup id = some approval := by
  obtain ⟨earlier, hearlier, hbecomes⟩ := h id approval hfound
  rw [hbecomes.live hlive]
  exact hearlier

theorem consumeApproval_uses (requestId : String) :
    Ensures (consumeApproval config w driverId vehicleId requestId) c
      (fun _ c' => config.RequiresApproval vehicleId → Used w driverId vehicleId c c')
      fun _ => Asking config w driverId vehicleId c := by
  have hrefl : Wanes c c := Std.Refl.refl c
  unfold consumeApproval
  rw [ensures_bind, ensures_theService]
  cases c.service.mobileApprovals.lookup vehicleId with
  | none => exact hrefl.asking
  | some found =>
    simp only [steadyNow, MobileApproval.details, ensures_bind, ensures_look, ensures_pure,
      ensures_tryAudit]
    refine .refuseIf (fun _ => ?_) fun _ => hrefl.asking
    refine (requireMobileApproval_gives requestId).mono ?_ fun _ _ h => h.after hrefl
    rintro _ c₁ ⟨hwanes, hgiven⟩
    replace hwanes : Wanes c c₁ := hwanes
    rw [ensures_update]
    intro hrequires
    obtain ⟨approval, hfound, happroved, howner, htimely⟩ := hgiven hrequires
    refine ⟨fun id hid approval' hfound' => ?_, approval, approval.sessionId, ?_⟩
    · exact hwanes id approval' ((Table.lookup_adjust_ne _ hid).symm.trans hfound')
    · refine ⟨hwanes.approved hfound (happroved ▸ ApprovalState.live_approved), happroved, howner,
        ⟨htimely.stands, htimely.deadline⟩, ?_⟩
      exact (Table.lookup_adjust_self _).trans (congrArg (Option.map _) hfound)

/-- The checks of a connection request have passed. -/
def Cleared (config : SignalingServerConfig) (w : Circumstances) (driverId vehicleId : String)
    (c c' : Call) : Prop :=
  (config.RequiresApproval vehicleId → Used w driverId vehicleId c c') ∧
    (¬config.RequiresApproval vehicleId → Wanes c c')

theorem Used.after {c'' : Call} (h : Wanes c c') (h' : Used w driverId vehicleId c' c'') :
    Used w driverId vehicleId c c'' := by
  obtain ⟨approval, sessionId, hfound, happroved, hrest⟩ := h'.self
  refine ⟨fun id hid approval'' hfound'' => ?_, approval, sessionId, ?_, happroved, hrest⟩
  · obtain ⟨approval', hfound', hbecomes'⟩ := h'.others id hid approval'' hfound''
    obtain ⟨approval, hfound, hbecomes⟩ := h id approval' hfound'
    exact ⟨approval, hfound, hbecomes.trans hbecomes'⟩
  · exact h.approved hfound (happroved ▸ ApprovalState.live_approved)

/-- A request goes on after something that makes no approval. -/
theorem wanes_then {α β : Type} {p : Handler α} {f : α → Handler β} {Q : β → Call → Prop}
    {start : Call} (h : Wanes start c) (hp : Within Wanes p)
    (hf : ∀ a c', Wanes start c' →
      Ensures (f a) c' Q fun _ => Asking config w driverId vehicleId start) :
    Ensures (p >>= f) c Q fun _ => Asking config w driverId vehicleId start := by
  rw [ensures_bind]
  exact (hp c).mono (fun a c' h' => hf a c' (trans_of Wanes h h'))
    fun _ _ h' => (trans_of Wanes h h').asking

theorem authorizeSession_clears (body : Json) :
    Ensures (authorizeSession config w driverId vehicleId body) c
      (fun _ => Cleared config w driverId vehicleId c)
      fun _ => Asking config w driverId vehicleId c := by
  have hrefl : Wanes c c := Std.Refl.refl c
  have hrejected : ∀ {record : AuditRecord} {refusal : Refusal},
      Within Wanes (audit w record >>= fun _ => (throw refusal : Handler Unit)) :=
    (wanes_aside (Aside.audit _)).bind fun _ => .throw _
  refine wanes_then hrefl (.liftResult _) fun token _ h₁ => ?_
  refine wanes_then h₁ (wanes_aside (Aside.validateDriverToken _ _)) fun _ _ h₂ => ?_
  refine wanes_then h₂ (.whenever hrejected) fun _ _ h₃ => ?_
  refine wanes_then h₃ (wanes_aside Aside.theService) fun _ _ h₄ => ?_
  refine wanes_then h₄ (.refuseIf _ _) fun _ _ h₅ => ?_
  refine wanes_then h₅ (wanes_aside Aside.theService) fun _ _ h₆ => ?_
  refine wanes_then h₆ (.whenever hrejected) fun _ _ h₇ => ?_
  refine wanes_then h₇ (.liftResult _) fun requestId c₈ h₈ => ?_
  rw [ensures_bind]
  refine (requireMobileApproval_gives requestId).mono ?_ fun _ _ h => h.after h₈
  rintro _ c₉ ⟨h₉, -⟩
  refine wanes_then (trans_of Wanes h₈ h₉) (wanes_aside (Aside.tryAudit _)) fun _ _ h₁₀ => ?_
  refine wanes_then h₁₀ (.refuseIf _ _) fun _ c' h' => ?_
  refine .whenever (fun hrequires => ?_) fun hfree => ⟨fun h => absurd h hfree, fun _ => h'⟩
  exact (consumeApproval_uses requestId).mono
    (fun _ _ hused => ⟨fun h => (hused h).after h', fun h => absurd hrequires h⟩)
    fun _ _ h => h.after h'

/-! ### The session -/

theorem Timely.sessionId {service : SignalingService} {approval : MobileApproval} {id : String}
    (h : Timely w service id approval) (sessionId : String) :
    Timely w service id { approval with sessionId := sessionId } :=
  ⟨h.stands, h.deadline⟩

/-- The approval is given the id of the session that it was used up for. -/
theorem openSession_marks :
    Ensures (openSession config w driverId vehicleId) c
      (fun created c' => ∀ id, c'.service.mobileApprovals.lookup id =
        if config.RequiresApproval vehicleId ∧ id = vehicleId then
          (c.service.mobileApprovals.lookup id).map ({ · with sessionId := created.1 })
        else c.service.mobileApprovals.lookup id)
      fun _ => Unasked c := by
  unfold openSession nowMs randomToken
  simp only [ensures_bind, ensures_theService, ensures_update, ensures_look]
  cases w.random (c.looks + 1) with
  | none => exact ⟨rfl, rfl⟩
  | some token =>
    rw [ensures_pure]
    refine .whenever (fun hrequires id => ?_) fun hfree id => ?_
    · refine (Table.lookup_adjust _).trans ?_
      simp only [hrequires, true_and]
    · exact (if_neg fun h => hfree h.1).symm

theorem grantAuthority_unasked (sessionId : String) (session : Session) :
    Within Unasked (grantAuthority config w sessionId session) :=
  (unasked_aside (Aside.audit _)).bind fun _ => (transitionSession_unasked _ _ _).bind fun _ =>
    (transitionSession_unasked _ _ _).bind fun _ => (transitionSession_unasked _ _ _).bind fun _ =>
    (unasked_aside Aside.theService).bind fun _ => (unasked_aside (Aside.tryAudit _)).bind fun _ =>
    .whenever ((closeSession_unasked _ _).bind fun _ => .throw _)

end

/-- The request is the one that asks for the approval. -/
structure AskedBy (config : SignalingServerConfig) (w : Circumstances) (body : Json)
    (standing : Standing) (vehicleId : String) (approval : MobileApproval) : Prop where
  driver : requiredString body "driver_id" = .ok approval.driverId
  vehicle : requiredString body "vehicle_id" = .ok vehicleId
  asked : AskedFor config w approval.driverId vehicleId standing approval

/-- The request is the one that uses the approval up. -/
structure UsedBy (w : Circumstances) (body : Json) (before after : SignalingService)
    (vehicleId : String) (approval : MobileApproval) (sessionId : String) : Prop where
  driver : requiredString body "driver_id" = .ok approval.driverId
  vehicle : requiredString body "vehicle_id" = .ok vehicleId
  found : before.mobileApprovals.lookup vehicleId = some approval
  approved : approval.state = .approved
  timely : Timely w after vehicleId approval
  used : after.mobileApprovals.lookup vehicleId =
    some { approval with state := .consumed, sessionId := sessionId }

/-- What a connection request does to approvals and sessions. -/
structure Creates (config : SignalingServerConfig) (w : Circumstances) (body : Json)
    (c c' : Call) : Prop where
  approvals : ∀ id approval', c'.service.mobileApprovals.lookup id = some approval' →
    (∃ approval, c.service.mobileApprovals.lookup id = some approval ∧
      approval.Becomes approval') ∨
    AskedBy config w body c'.standing id approval' ∨
    ∃ approval sessionId, UsedBy w body c.service c'.service id approval sessionId
  sessions : ∀ sessionId session, c'.service.sessions.lookup sessionId = some session →
    c.service.sessions.lookup sessionId = none → config.RequiresApproval session.vehicleId →
    ∃ approval, UsedBy w body c.service c'.service session.vehicleId approval sessionId ∧
      approval.driverId = session.driverId

section
variable {driverId vehicleId : String} {body : Json}
  (hdriver : requiredString body "driver_id" = .ok driverId)
  (hvehicle : requiredString body "vehicle_id" = .ok vehicleId)
include hdriver hvehicle

/-- Nothing has been created. -/
theorem Creates.of_asking (hasking : Asking config w driverId vehicleId c c')
    (hsessions : c'.service.sessions = c.service.sessions) : Creates config w body c c' := by
  constructor
  · intro id approval' hfound
    rcases hasking id approval' hfound with hearlier | ⟨rfl, hasked⟩
    · exact .inl hearlier
    · obtain rfl := hasked.owner
      exact .inr (.inl ⟨hdriver, hvehicle, hasked⟩)
  · intro sessionId session hfound hnone
    rw [hsessions, hnone] at hfound
    cases hfound

/-- The approval has been used up, for the sessions that are new. -/
theorem Creates.of_used {approval : MobileApproval} {sessionId : String}
    (hothers : ∀ id, id ≠ vehicleId → ∀ approval',
      c'.service.mobileApprovals.lookup id = some approval' →
      ∃ approval, c.service.mobileApprovals.lookup id = some approval ∧ approval.Becomes approval')
    (hfound : c.service.mobileApprovals.lookup vehicleId = some approval)
    (happroved : approval.state = .approved) (howner : approval.driverId = driverId)
    (htimely : Timely w c'.service vehicleId approval)
    (hused : c'.service.mobileApprovals.lookup vehicleId =
      some { approval with state := .consumed, sessionId := sessionId })
    (hnew : ∀ id session, c'.service.sessions.lookup id = some session →
      c.service.sessions.lookup id = none →
      id = sessionId ∧ session.driverId = driverId ∧ session.vehicleId = vehicleId) :
    Creates config w body c c' := by
  subst howner
  have husedBy : UsedBy w body c.service c'.service vehicleId approval sessionId :=
    ⟨hdriver, hvehicle, hfound, happroved, htimely, hused⟩
  constructor
  · intro id approval' hfound'
    by_cases hid : id = vehicleId
    · subst hid
      exact .inr (.inr ⟨approval, sessionId, husedBy⟩)
    · exact .inl (hothers id hid approval' hfound')
  · intro id session hfound' hnone _
    obtain ⟨rfl, hsdriver, rfl⟩ := hnew id session hfound' hnone
    exact ⟨approval, husedBy, hsdriver.symm⟩

/-- A session that needs no approval. -/
theorem Creates.of_free (hwanes : Wanes c c') (hfree : ¬config.RequiresApproval vehicleId)
    (hnew : ∀ id session, c'.service.sessions.lookup id = some session →
      c.service.sessions.lookup id = none → session.vehicleId = vehicleId) :
    Creates config w body c c' := by
  refine ⟨fun id approval' hfound => .inl (hwanes id approval' hfound), ?_⟩
  intro id session hfound hnone hrequires
  rw [hnew id session hfound hnone] at hrequires
  exact absurd hrequires hfree

end

/-- Past its checks a request makes one session, and leaves the approvals alone. -/
theorem Begun.creates {driverId vehicleId sessionId : String} {body : Json} {c₁ c₂ : Call}
    (hdriver : requiredString body "driver_id" = .ok driverId)
    (hvehicle : requiredString body "vehicle_id" = .ok vehicleId)
    (hcleared : Cleared config w driverId vehicleId c c₁) (hapart : Apart c c₁)
    (hid : sessionId = sessionName (c₁.service.sessionCounter + 1))
    (hbegun : Begun driverId vehicleId .online c₁ c₂)
    (hmarked : ∀ id, c₂.service.mobileApprovals.lookup id =
      if config.RequiresApproval vehicleId ∧ id = vehicleId then
        (c₁.service.mobileApprovals.lookup id).map ({ · with sessionId := sessionId })
      else c₁.service.mobileApprovals.lookup id)
    {g : Grounds} (hopens : ¬g.opens) (hmoves : Moves config g c₂ c') (hnumbered : c₂.service.Numbered)
    (hunasked : Unasked c₂ c') :
    Creates config w body c c' := by
  have hnew : ∀ id session, c'.service.sessions.lookup id = some session →
      c.service.sessions.lookup id = none →
      id = sessionId ∧ session.driverId = driverId ∧ session.vehicleId = vehicleId := by
    intro id session hfound hnone
    have hsame : id = sessionId := by
      by_contra hother
      have hsessions : c₁.service.sessions = c.service.sessions := hapart.held.sessions
      have hnone₂ := (hbegun.others id (hid ▸ hother)).trans (hsessions ▸ hnone)
      rw [Moves.unopened hmoves hopens id hnone₂] at hfound
      cases hfound
    obtain ⟨created, hcreated, hcdriver, hcvehicle, -⟩ := hbegun.self
    obtain ⟨session', hfound', hcontinues⟩ :=
      (Moves.persists hmoves hnumbered).2 _ created hcreated
    rw [hsame, hid, hfound'] at hfound
    obtain rfl := Option.some.inj hfound
    exact ⟨hsame, hcontinues.driverId.trans hcdriver, hcontinues.vehicleId.trans hcvehicle⟩
  have happrovals := hunasked.approvals
  by_cases hrequires : config.RequiresApproval vehicleId
  · obtain ⟨hothers, approval, earlier, hfound, happroved, howner, htimely, hused⟩ :=
      hcleared.1 hrequires
    refine .of_used hdriver hvehicle ?_ hfound happroved howner ?_ ?_ hnew
    · intro id hother approval' hfound'
      rw [happrovals, hmarked, if_neg fun h => hother h.2] at hfound'
      exact hothers id hother approval' hfound'
    · exact htimely.of_standing (hunasked.standing.trans hbegun.standing)
    · rw [happrovals, hmarked, if_pos ⟨hrequires, rfl⟩, hused]
      rfl
  · have hwanes := hcleared.2 hrequires
    refine .of_free hdriver hvehicle ?_ hrequires fun id session hfound hnone =>
      (hnew id session hfound hnone).2.2
    intro id approval' hfound'
    rw [happrovals, hmarked, if_neg fun h => hrequires h.1] at hfound'
    exact hwanes id approval' hfound'

/-- Past its checks a request may still fail to make a session. -/
theorem Cleared.creates {driverId vehicleId : String} {body : Json} {c₁ : Call}
    (hdriver : requiredString body "driver_id" = .ok driverId)
    (hvehicle : requiredString body "vehicle_id" = .ok vehicleId)
    (hcleared : Cleared config w driverId vehicleId c c₁) (hunasked : Unasked c₁ c')
    (hsessions : c'.service.sessions = c.service.sessions) : Creates config w body c c' := by
  have hnone : ∀ id session, c'.service.sessions.lookup id = some session →
      c.service.sessions.lookup id ≠ none := by
    intro id session hfound hnone
    rw [hsessions, hnone] at hfound
    cases hfound
  have happrovals := hunasked.approvals
  by_cases hrequires : config.RequiresApproval vehicleId
  · obtain ⟨hothers, approval, sessionId, hfound, happroved, howner, htimely, hused⟩ :=
      hcleared.1 hrequires
    refine .of_used hdriver hvehicle (fun id hother approval' hfound' => ?_) hfound happroved howner
      (htimely.of_standing hunasked.standing) (by rw [happrovals, hused]) fun id session hfound h =>
        absurd h (hnone id session hfound)
    exact hothers id hother approval' (happrovals ▸ hfound')
  · exact .of_free hdriver hvehicle (trans_of Wanes (hcleared.2 hrequires) hunasked.wanes) hrequires
      fun id session hfound h => absurd h (hnone id session hfound)

theorem createSession_uses (hnumbered : c.service.Numbered) (body : Json) :
    Ensures (createSession config w body) c (fun _ => Creates config w body c)
      fun _ => Creates config w body c := by
  have hnothing : Creates config w body c c := by
    refine ⟨fun id approval hfound => .inl ⟨approval, hfound, .inl rfl⟩, ?_⟩
    intro sessionId session hfound hnone
    rw [hnone] at hfound
    cases hfound
  unfold createSession
  rw [ensures_bind]
  refine .liftResult (fun driverId hdriver => ?_) fun _ _ => hnothing
  rw [ensures_bind]
  refine .liftResult (fun vehicleId hvehicle => ?_) fun _ _ => hnothing
  rw [ensures_bind]
  refine ((authorizeSession_clears body).and (Apart.authorizeSession driverId vehicleId body c)).mono
    ?_ fun _ _ h => .of_asking hdriver hvehicle h.1 h.2.held.sessions
  rintro _ c₁ ⟨hcleared, hapart⟩
  have hnumbered₁ : c₁.service.Numbered :=
    (Move.aside hapart.toAway : Move config .none c c₁).numbered hnumbered
  rw [ensures_bind]
  have hopens : ({ Grounds.none with opens := True } : Grounds).opens := trivial
  refine (((openSession_begins driverId vehicleId).and openSession_marks).and
    (openSession_moves driverId vehicleId hopens)).mono ?_ fun _ _ h =>
      hcleared.creates hdriver hvehicle h.1.2 (h.1.1.sessions.trans hapart.held.sessions)
  rintro ⟨sessionId, session⟩ c₂ ⟨⟨⟨hid, hbegun⟩, hmarked⟩, hopened, -⟩
  have hnumbered₂ := (Moves.persists hopened hnumbered₁).1
  let g : Grounds := { Grounds.none with abandons := True }
  have hcreates : ∀ {c'}, Moves config g c₂ c' → Unasked c₂ c' → Creates config w body c c' :=
    fun hmoves hunasked => hbegun.creates hdriver hvehicle hcleared hapart hid hmarked not_false
      hmoves hnumbered₂ hunasked
  obtain ⟨created, hcreated, -, -, honline⟩ := hbegun.self
  have hgranted : Granted config g sessionId .online c₂ c₂ := by
    refine ⟨.refl, created, ?_, honline⟩
    rw [show sessionId = _ from hid]
    exact hcreated
  rw [ensures_bind, ensures_tryCatch]
  refine ((grantAuthority_moves hgranted).and (grantAuthority_unasked sessionId session c₂)).mono
    (fun _ c₃ h => hcreates h.1 h.2) fun _ c₃ h => ?_
  unfold abandonSession
  rw [ensures_bind, ensures_update, ensures_throw]
  have habandons : g.abandons := trivial
  exact hcreates (h.1.1.tail (.abandoned c₃ habandons)) ⟨h.2.approvals, h.2.standing⟩

/-! ## A decision -/

/-- What a decision makes of an approval. -/
inductive Verdict (body : Json) : ApprovalState → Prop
  | approve (h : requiredString body "decision" = .ok "approve") : Verdict body .approved
  | reject (h : requiredString body "decision" = .ok "reject") : Verdict body .rejected

/-- The approver behind the token has decided on the pending approval. -/
structure DecidedBy (config : SignalingServerConfig) (token requestId : String) (body : Json)
    (before after : SignalingService) (vehicleId : String) (approval approval' : MobileApproval) :
    Prop where
  approver : ∃ approver, after.approverTokens.lookup token = some approver ∧
    approver.driverId = approval'.decidedBy
  verdict : Verdict body approval'.state
  requires : config.RequiresApproval vehicleId
  requestId : approval.requestId = requestId
  found : before.mobileApprovals.lookup vehicleId = some approval
  pending : approval.state = .pending
  decided : approval' =
    { approval with state := approval'.state, decidedBy := approval'.decidedBy }

/-- At most one approval has changed, the one that was decided. -/
def Deciding (config : SignalingServerConfig) (token requestId : String) (body : Json)
    (c c' : Call) : Prop :=
  ∀ id approval', c'.service.mobileApprovals.lookup id = some approval' →
    c.service.mobileApprovals.lookup id = some approval' ∨
    ∃ approval, DecidedBy config token requestId body c.service c'.service id approval approval'

theorem requireApprover_found (token : String) :
    Ensures (requireApprover token) c
      (fun approverId c' => c' = c ∧ ∃ approver, c.service.approverTokens.lookup token =
        some approver ∧ approver.driverId = approverId)
      fun _ c' => c' = c := by
  unfold requireApprover
  rw [ensures_bind, ensures_theService]
  cases c.service.approverTokens.lookup token with
  | none => exact rfl
  | some approver => exact ⟨rfl, approver, rfl, rfl⟩

/-- The approval that is found has the id of the request. -/
theorem findApproval_found (requestId : String) :
    Ensures (findApproval config w requestId) c
      (fun found c' => c'.service = c.service ∧ ∀ vehicleId, found = some vehicleId →
        (∃ approval ∈ c.service.mobileApprovals.lookup vehicleId, approval.requestId = requestId) ∧
          config.RequiresApproval vehicleId)
      fun _ _ => False := by
  unfold findApproval loopOver
  rw [ensures_bind, ensures_theService, ensures_bind, ensures_look, ensures_pure]
  refine ⟨rfl, fun vehicleId hfound => ?_⟩
  have hchosen := List.find?_some hfound
  exact of_decide_eq_true hchosen

theorem mobileDecision_decides (token requestId : String) (body : Json) :
    Ensures (mobileDecision config w token requestId body) c
      (fun _ => Deciding config token requestId body c)
      fun _ => Deciding config token requestId body c := by
  have hsame : ∀ {c'}, c'.service = c.service → Deciding config token requestId body c c' := by
    intro c' h id approval' hfound
    exact .inl (h ▸ hfound)
  unfold mobileDecision
  rw [ensures_bind]
  refine (requireApprover_found token).mono ?_ fun _ _ h => hsame (by rw [h])
  rintro approverId _ ⟨rfl, approver, htoken, happrover⟩
  rw [ensures_bind]
  refine .liftResult (fun decision hdecision => ?_) fun _ _ => hsame rfl
  rw [ensures_bind]
  refine .refuseIf (fun hknown => ?_) fun _ => hsame rfl
  rw [ensures_bind]
  refine (findApproval_found requestId).mono ?_ fun _ _ => False.elim
  rintro found c₁ ⟨hservice, hfound⟩
  cases found with
  | none => exact hsame hservice
  | some vehicleId =>
    obtain ⟨⟨approval, happroval, hrequest⟩, hrequires⟩ := hfound vehicleId rfl
    have hverdict : Verdict body (if decision = "approve" then .approved else .rejected) := by
      split
      · rename_i happrove
        exact .approve (happrove ▸ hdecision)
      · have hreject : decision = "reject" := by tauto
        exact .reject (hreject ▸ hdecision)
    unfold decideApproval
    rw [ensures_bind, ensures_theService, hservice, show AList.lookup vehicleId _ = _ from happroval]
    refine .ite (fun _ => hsame hservice) fun _ => ?_
    rw [ensures_bind]
    refine .refuseIf (fun hpending => ?_) fun _ => hsame hservice
    simp only [steadyNow, MobileApproval.details, ensures_bind, ensures_look, ensures_pure,
      ensures_tryAudit]
    refine .refuseIf (fun _ => ?_) fun _ => hsame hservice
    rw [ensures_update]
    intro id approval' hfound'
    replace hfound' := (Table.lookup_insert _).symm.trans hfound'
    split at hfound'
    · rename_i hid
      subst hid
      obtain rfl := Option.some.inj hfound'
      refine .inr ⟨approval, ⟨approver, ?_, happrover⟩, hverdict, hrequires, hrequest, happroval,
        not_not.mp hpending, rfl⟩
      rw [← htoken]
      exact congrArg (·.approverTokens.lookup token) hservice
    · rw [hservice] at hfound'
      exact .inl hfound'

end MineTeleop.Signaling
