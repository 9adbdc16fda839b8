import MineTeleop.Signaling.Borne
import MineTeleop.Signaling.Turns

/-!
# Approvals that come to an end

What most requests leave of the approvals: every one is as it was, or has been cancelled or has
expired.

Proved here, for every configuration and every circumstances:

* `borne_wanes`: closing sessions and the cleanup make no approval;
* `handle_wanes`: neither does a request, unless it asks for a session or decides on an approval.
-/

namespace MineTeleop.Signaling

open Documents Programs Tables

variable {config : SignalingServerConfig} {w : Circumstances} {c c' : Call} {α : Type}

/-- The approval is as it was, or over. -/
def MobileApproval.Becomes (approval approval' : MobileApproval) : Prop :=
  approval' = approval ∨ approval' = { approval with state := .cancelled } ∨
    approval' = { approval with state := .expired }

theorem MobileApproval.Becomes.trans {a b d : MobileApproval} (h : a.Becomes b)
    (h' : b.Becomes d) : a.Becomes d := by
  rcases h' with rfl | rfl | rfl
  · exact h
  all_goals rcases h with rfl | rfl | rfl <;> simp [MobileApproval.Becomes]

/-- Every approval was there before, and has at most come to its end. -/
def Wanes (c c' : Call) : Prop :=
  ∀ vehicleId approval', c'.service.mobileApprovals.lookup vehicleId = some approval' →
    ∃ approval, c.service.mobileApprovals.lookup vehicleId = some approval ∧
      approval.Becomes approval'

instance : Std.Refl Wanes := ⟨fun _ _ approval h => ⟨approval, h, .inl rfl⟩⟩

instance : IsTrans Call Wanes where
  trans _ _ _ h h' := by
    intro vehicleId approval'' hfound''
    obtain ⟨approval', hfound', hbecomes'⟩ := h' vehicleId approval'' hfound''
    obtain ⟨approval, hfound, hbecomes⟩ := h vehicleId approval' hfound'
    exact ⟨approval, hfound, hbecomes.trans hbecomes'⟩

/-- Approvals and parties are as they were. -/
structure Unasked (c c' : Call) : Prop where
  approvals : c'.service.mobileApprovals = c.service.mobileApprovals
  standing : c'.standing = c.standing

instance : Std.Refl Unasked := ⟨fun _ => ⟨rfl, rfl⟩⟩

instance : IsTrans Call Unasked :=
  ⟨fun _ _ _ h h' => ⟨h'.approvals.trans h.approvals, h'.standing.trans h.standing⟩⟩

theorem Wanes.of_approvals (h : c'.service.mobileApprovals = c.service.mobileApprovals) :
    Wanes c c' :=
  fun _ approval hfound => ⟨approval, h ▸ hfound, .inl rfl⟩

theorem Unasked.wanes (h : Unasked c c') : Wanes c c' := .of_approvals h.approvals

theorem Aside.unasked (h : Aside c c') : Unasked c c' := ⟨h.approvals, h.standing⟩

theorem unasked_aside {p : Handler α} (h : Within Aside p) : Within Unasked p :=
  h.mono fun _ _ h => h.unasked

theorem unasked_update {f : SignalingService → SignalingService}
    (h : ∀ service, (f service).mobileApprovals = service.mobileApprovals)
    (hstanding : ∀ c : Call, ({ c with service := f c.service } : Call).standing = c.standing) :
    Within Unasked (update f) :=
  fun c => ⟨h _, hstanding c⟩

theorem wanes_aside {p : Handler α} (h : Within Aside p) : Within Wanes p :=
  h.mono fun _ _ h => h.unasked.wanes

theorem wanes_update {f : SignalingService → SignalingService}
    (h : ∀ service, (f service).mobileApprovals = service.mobileApprovals) :
    Within Wanes (update f) :=
  fun _ => .of_approvals (h _)

/-- An approval is put back with its end. -/
theorem wanes_end {vehicleId : String} {approval ended : MobileApproval}
    (hfound : c.service.mobileApprovals.lookup vehicleId = some approval)
    (hbecomes : approval.Becomes ended) :
    Wanes c { c with service := { c.service with
      mobileApprovals := c.service.mobileApprovals.insert vehicleId ended } } := by
  intro vehicleId' approval' hfound'
  replace hfound' := (Table.lookup_insert _).symm.trans hfound'
  split at hfound'
  · rename_i hsame
    obtain rfl := Option.some.inj hfound'
    exact ⟨approval, hsame ▸ hfound, hbecomes⟩
  · exact ⟨approval', hfound', .inl rfl⟩

/-! ## Sessions -/

theorem transitionSession_unasked (sessionId : String) (next : SessionState) (reason : String) :
    Within Unasked (transitionSession w sessionId next reason) := by
  refine (unasked_aside Aside.theService).bind fun s => ?_
  cases s.sessions.lookup sessionId with
  | none => exact .pure _
  | some session =>
    exact .whenever ((Within.refuseIf _ _).bind fun _ =>
      .bind (unasked_update (fun _ => rfl) fun _ => rfl) fun _ =>
      unasked_aside (Aside.audit _))

theorem closeSession_unasked (sessionId reason : String) :
    Within Unasked (closeSession w sessionId reason) := by
  refine (unasked_aside Aside.theService).bind fun s => ?_
  cases s.sessions.lookup sessionId with
  | none => exact .pure _
  | some session =>
    exact .whenever (.bind (unasked_update (fun _ => rfl) fun _ => rfl) fun _ =>
      .bind (unasked_update (fun _ => rfl) fun _ => rfl) fun _ =>
      (Within.whenever (transitionSession_unasked _ _ _)).bind fun _ =>
      transitionSession_unasked _ _ _)

theorem closeSession_wanes (sessionId reason : String) :
    Within Wanes (closeSession w sessionId reason) :=
  (closeSession_unasked sessionId reason).mono fun _ _ h => h.wanes

/-! ## Running out -/

/-- The ends that are found for a live approval. -/
def ApprovalState.Ends (next : ApprovalState) : Prop := next = cancelled ∨ next = expired

theorem ApprovalState.Ends.becomes {next : ApprovalState} (h : next.Ends)
    (approval : MobileApproval) : approval.Becomes { approval with state := next } := by
  rcases h with rfl | rfl
  · exact .inr (.inl rfl)
  · exact .inr (.inr rfl)

theorem ApprovalState.Ends.not_live {next : ApprovalState} (h : next.Ends) : ¬next.Live := by
  rcases h with rfl | rfl <;> simp [ApprovalState.Live]

theorem approvalEnd_ends (vehicleId : String) (approval : MobileApproval) :
    Ensures (approvalEnd w vehicleId approval) c
      (fun found c' => Aside c c' ∧ ∀ next, found = some next → next.Ends)
      fun _ c' => Aside c c' := by
  have hrefl : Aside c c := Std.Refl.refl c
  unfold approvalEnd
  rw [ensures_bind, ensures_theService]
  refine .ite (fun _ => ⟨hrefl, ?_⟩) fun _ => ?_
  · rintro next ⟨⟩
    exact .inl rfl
  rw [ensures_bind]
  refine (Aside.steadyNow c).mono (fun _ c' haside => ?_) fun _ _ => id
  refine .ite (fun _ => ⟨haside, ?_⟩) fun _ => ⟨haside, nofun⟩
  rintro next ⟨⟩
  exact .inr rfl

theorem cleanupMobileApproval_wanes (vehicleId : String) :
    Within Wanes (cleanupMobileApproval w vehicleId) := by
  intro c
  have hrefl : Wanes c c := Std.Refl.refl c
  unfold cleanupMobileApproval
  rw [ensures_bind, ensures_theService]
  cases hfound : c.service.mobileApprovals.lookup vehicleId with
  | none => exact hrefl
  | some approval =>
    refine .whenever (fun _ => ?_) fun _ => hrefl
    rw [ensures_bind]
    refine (approvalEnd_ends vehicleId approval).mono ?_ fun _ _ h => h.unasked.wanes
    rintro found c₁ ⟨haside, hends⟩
    have hwanes : Wanes c c₁ := haside.unasked.wanes
    cases found with
    | none => exact hwanes
    | some next =>
      have hend := wanes_end ((congrArg (·.lookup vehicleId) haside.approvals).trans hfound)
        ((hends next rfl).becomes approval)
      unfold endApproval
      rw [ensures_bind, ensures_update]
      have hrest : Within Wanes (do
          let details ← MobileApproval.details w vehicleId { approval with state := next }
          let _ ← tryAudit w ⟨"mobile_approval_" ++ next.text, details⟩) :=
        (wanes_aside (Aside.details _ _)).bind fun _ => (wanes_aside (Aside.tryAudit _)).bind
          fun _ => .pure _
      exact (hrest _).mono (fun _ _ h => trans_of Wanes (trans_of Wanes hwanes hend) h)
        fun _ _ h => trans_of Wanes (trans_of Wanes hwanes hend) h

theorem cleanupMobileApprovals_wanes : Within Wanes (cleanupMobileApprovals w) :=
  (wanes_aside Aside.theService).bind fun _ => (wanes_aside (Aside.loopOver _)).bind fun keys =>
    (Within.forM cleanupMobileApproval_wanes keys).bind fun _ =>
    (wanes_aside Aside.nowMs).bind fun _ => wanes_update fun _ => rfl

theorem borne_wanes : Borne w Wanes where
  aside _ _ h := h.unasked.wanes
  updates _ _ happrovals := wanes_update happrovals
  closes := closeSession_wanes
  approvals := cleanupMobileApprovals_wanes

/-! ## Requests -/

theorem renewSession_wanes (sessionId : String) (body : Json) :
    Within Wanes (renewSession config w sessionId body) :=
  (Within.liftResult _).bind fun _ => (wanes_aside (Aside.requireParticipant _ _)).bind fun _ =>
    (Within.refuseIf _ _).bind fun _ =>
    (wanes_aside (Aside.validateActorCredential _ _ _)).bind fun _ =>
    (wanes_aside Aside.nowMs).bind fun _ => .bind (wanes_update fun _ => rfl) fun _ =>
    (wanes_aside (Aside.audit _)).bind fun _ => (wanes_aside Aside.theService).bind fun _ => .pure _

/-- The approval that is cancelled is the one of its vehicle. -/
theorem approvalCancel_wanes (body : Json) : Within Wanes (approvalCancel w body) := by
  refine (Within.liftResult _).bind fun _ => (Within.liftResult _).bind fun vehicleId =>
    (Within.liftResult _).bind fun _ =>
    (wanes_aside (Aside.validateDriverToken _ _)).bind fun _ => (Within.liftResult _).bind fun _ =>
    (wanes_aside Aside.theService).bind fun _ => (wanes_aside (Aside.generationAt _ _)).bind fun _ c => ?_
  rw [ensures_bind, ensures_theService]
  have hrefl : Wanes c c := Std.Refl.refl c
  cases hfound : c.service.mobileApprovals.lookup vehicleId with
  | none => exact hrefl
  | some approval =>
    rw [ensures_bind]
    refine .refuseIf (fun _ => ?_) fun _ => hrefl
    rw [ensures_bind]
    have hclose : Within Unasked (whenever (approval.sessionId ≠ "")
        (closeSession w approval.sessionId "mobile_approval_cancelled")) :=
      .whenever (closeSession_unasked _ _)
    refine (hclose c).mono (fun _ c₁ h₁ => ?_) fun _ _ h => h.wanes
    refine .ite (fun _ => ?_) fun _ => h₁.wanes
    rw [ensures_bind, ensures_update]
    have hfound₁ := (congrArg (·.lookup vehicleId) h₁.approvals).trans hfound
    have hend := trans_of Wanes h₁.wanes (wanes_end hfound₁ (.inr (.inl rfl)))
    have hrest : Within Wanes (do
        let details ← MobileApproval.details w vehicleId { approval with state := .cancelled }
        audit w ⟨"mobile_approval_cancelled", details⟩
        pure (Answer.approval vehicleId { approval with state := .cancelled })) :=
      (wanes_aside (Aside.details _ _)).bind fun _ => (wanes_aside (Aside.audit _)).bind
        fun _ => .pure _
    exact (hrest _).mono (fun _ _ h => trans_of Wanes hend h) fun _ _ h => trans_of Wanes hend h

/-! ## Mailboxes -/

theorem takeSignalingMessages_wanes (sessionId recipient requested : String) (consume : Bool) :
    Within Wanes (takeSignalingMessages config w sessionId recipient requested consume) :=
  (wanes_aside Aside.monotonicNowMs).bind fun _ => .bind (wanes_update fun _ => rfl) fun _ =>
    (wanes_aside Aside.theService).bind fun _ =>
    .bind (.whenever (wanes_update fun _ => rfl)) fun _ => .pure _

theorem acknowledgeSignalingMessages_wanes (sessionId recipient : String) (deliveryCursor : ℕ)
    (controlOnly : Bool) :
    Within Wanes (acknowledgeSignalingMessages sessionId recipient deliveryCursor controlOnly) :=
  (wanes_aside Aside.theService).bind fun _ => .bind (wanes_update fun _ => rfl) fun _ =>
    (wanes_aside Aside.theService).bind fun _ => .pure _

theorem queueMessage_wanes (receivedAtUtcMs receivedMonotonicMs : ℤ) (post : Post) :
    Within Wanes (queueMessage w receivedAtUtcMs receivedMonotonicMs post) := by
  refine (wanes_aside Aside.theService).bind fun _ => .bind (wanes_update fun _ => rfl) fun _ =>
    (wanes_aside Aside.nowMs).bind fun _ => (wanes_aside Aside.monotonicNowMs).bind fun _ =>
    .bind (wanes_update fun service => ?_) fun _ => (wanes_aside Aside.theService).bind fun _ =>
    .bind (wanes_update fun _ => rfl) fun _ =>
    .bind (Within.modify fun _ => .of_approvals rfl) fun _ =>
    (Within.whenever (wanes_aside (Aside.audit _))).bind fun _ => .pure _
  unfold SignalingService.deliver
  split <;> rfl

theorem enqueueSignalingMessage_wanes (sessionId : String) (value : Json)
    (actor : Option String) :
    Within Wanes (enqueueSignalingMessage config w sessionId value actor) := by
  refine (wanes_aside Aside.nowMs).bind fun _ => (wanes_aside Aside.monotonicNowMs).bind fun _ =>
    .bind (wanes_aside fun c => (admitMessage_admits sessionId value actor).mono
      (fun _ _ h => h.1) fun _ _ h => h) fun post => (wanes_aside Aside.theService).bind fun s => ?_
  cases s.verdict post with
  | older => exact .throw _
  | reused => exact .throw _
  | retry acknowledgement => exact (wanes_aside (Aside.audit _)).bind fun _ => .pure _
  | next => exact queueMessage_wanes _ _ post

/-! ## Calls -/

theorem carried_wanes : Carried config w Wanes where
  aside _ _ h := h.unasked.wanes
  cleanup := borne_wanes.cleanup
  approvals := cleanupMobileApprovals_wanes
  takes := takeSignalingMessages_wanes
  acknowledges := acknowledgeSignalingMessages_wanes
  enqueues := enqueueSignalingMessage_wanes

/-- Requests that can make or decide an approval. -/
def Request.Asks : Request → Prop
  | createSession _ | mobileDecision .. => True
  | _ => False

theorem handle_wanes (request : Request) (hrequest : ¬request.Asks) :
    Within Wanes (request.handle config w) := by
  cases request with
  | revokeDriver body => exact borne_wanes.revokeDriver body
  | restoreDriver body => exact borne_wanes.restoreDriver body
  | revokeVehicle body => exact borne_wanes.revokeVehicle body
  | restoreVehicle body => exact borne_wanes.restoreVehicle body
  | driverLogin body => exact borne_wanes.driverLogin body
  | driverHeartbeat body => exact wanes_aside (Aside.driverHeartbeat body)
  | driverLogout body => exact borne_wanes.driverLogout body
  | vehicleOnline body => exact borne_wanes.vehicleOnline body
  | vehicleHeartbeat body => exact wanes_aside (Aside.vehicleHeartbeat body)
  | vehicleOffline body => exact borne_wanes.vehicleOffline body
  | approvalCancel body => exact approvalCancel_wanes body
  | createSession body => exact absurd trivial hrequest
  | renewSession sessionId body => exact renewSession_wanes sessionId body
  | endSession sessionId body => exact borne_wanes.closeAuthority sessionId body _ _
  | revokeAuthority sessionId body => exact borne_wanes.closeAuthority sessionId body _ _
  | report sessionId body records => exact wanes_aside (Aside.report sessionId body records)
  | postMessage sessionId body =>
    exact (enqueueSignalingMessage_wanes sessionId body none).bind fun _ => .pure _
  | authorizedVehicles driverId token =>
    exact wanes_aside (Aside.authorizedVehicles driverId token)
  | pollMessages sessionId recipient types credentials =>
    exact carried_wanes.pollMessages sessionId recipient types credentials
  | vehicleSession vehicleId credentials =>
    exact wanes_aside (Aside.vehicleSession vehicleId credentials)
  | readSession sessionId actor credentials =>
    exact wanes_aside (Aside.readSession sessionId actor credentials)
  | iceServers sessionId actor credentials =>
    exact wanes_aside (Aside.iceServers sessionId actor credentials)
  | mobileLogin source body => exact wanes_aside (Aside.mobileLogin source body)
  | mobileLogout token => exact wanes_aside (Aside.mobileLogout token)
  | mobileRequests token => exact wanes_aside (Aside.mobileRequests token)
  | mobileDecision token requestId body => exact absurd trivial hrequest
  | sessionLogs driverId token start => exact carried_wanes.sessionLogs driverId token start

theorem serve_wanes (request : Request) (hrequest : ¬request.Asks) :
    Within Wanes (request.serve config w) :=
  (carried_wanes.prepare request).bind fun _ => handle_wanes request hrequest

end MineTeleop.Signaling
