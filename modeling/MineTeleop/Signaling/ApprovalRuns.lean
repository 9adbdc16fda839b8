import MineTeleop.Signaling.Approvals

/-!
# Approvals over whole runs

Proved here, for every configuration and every order of steps, whatever the audit sink does:

* `step_turns`: what one step can do to the approval of a vehicle, and what a new session takes;
* `Backed.step`: an approval of the table goes back to the request that asked for it, and one that
  has been given to the decision that gave it;
* `sessions_approved`: so a session on a vehicle that needs an approval is created from one that an
  approver gave to its driver, for the connections of the request, in time, and for no other session.
-/

namespace MineTeleop.Signaling

open Documents Programs Tables Runs

variable {config : SignalingServerConfig} {w : Circumstances} {c c' : Call}

/-! ## One step -/

abbrev Turn := Step Station Occasion Outcome

namespace Turn

def standing (st : Turn) : Standing := (Call.start st.after.service).standing

/-- The step asks for the approval. -/
def Asks (config : SignalingServerConfig) (st : Turn) (vehicleId : String)
    (approval : MobileApproval) : Prop :=
  ∃ body, st.event.2 = .request (.createSession body) ∧
    AskedBy config st.event.1 body st.standing vehicleId approval

/-- The step is a decision, and makes the second approval of the first. -/
def Decides (config : SignalingServerConfig) (st : Turn) (vehicleId : String)
    (approval approval' : MobileApproval) : Prop :=
  ∃ token requestId body, st.event.2 = .request (.mobileDecision token requestId body) ∧
    DecidedBy config token requestId body st.before.service st.after.service vehicleId approval
      approval'

/-- The step uses the approval up, for the session if it makes one. -/
def Uses (st : Turn) (vehicleId : String) (approval : MobileApproval) (sessionId : String) :
    Prop :=
  ∃ body, st.event.2 = .request (.createSession body) ∧
    UsedBy st.event.1 body st.before.service st.after.service vehicleId approval sessionId

/-- The step creates the session. -/
def Opens (st : Turn) (sessionId : String) (session : Session) : Prop :=
  st.after.service.sessions.lookup sessionId = some session ∧
    st.before.service.sessions.lookup sessionId = none

end Turn

/-- What a step does to approvals and sessions. -/
structure Turns (config : SignalingServerConfig) (st : Turn) : Prop where
  approvals : ∀ id approval', st.after.service.mobileApprovals.lookup id = some approval' →
    (∃ approval, st.before.service.mobileApprovals.lookup id = some approval ∧
      approval.Becomes approval') ∨
    st.Asks config id approval' ∨
    (∃ approval sessionId, st.Uses id approval sessionId) ∨
    ∃ approval, st.Decides config id approval approval'
  sessions : ∀ sessionId session, st.Opens sessionId session →
    config.RequiresApproval session.vehicleId →
    ∃ approval, st.Uses session.vehicleId approval sessionId ∧
      approval.driverId = session.driverId

theorem step_numbered {station : Station} (occasion : Occasion)
    (hnumbered : station.service.Numbered) :
    (station.step config occasion).2.service.Numbered := by
  obtain ⟨c', hfollows, hservice, -, -⟩ := @step_did config station occasion
  have hnumbered' := (Moves.persists hfollows hnumbered).1
  rwa [hservice] at hnumbered'

/-- A session is only created on a connection request. -/
theorem step_unopened {station : Station} (occasion : Occasion)
    (haction : ∀ body, occasion.2 ≠ .request (.createSession body)) (id : String)
    (hnone : station.service.sessions.lookup id = none) :
    (station.step config occasion).2.service.sessions.lookup id = none := by
  obtain ⟨c', hfollows, hservice, -, -⟩ := @step_did config station occasion
  rw [← hservice]
  refine Moves.unopened hfollows ?_ id hnone
  obtain ⟨w, action⟩ := occasion
  cases action with
  | request request =>
    cases request with
    | createSession body => exact absurd rfl (haction body)
    | _ => exact not_false
  | receive id message =>
    show ¬Grounds.opens ((Option.map _ _).getD _)
    cases station.connections.lookup id <;> exact not_false
  | _ => exact not_false

/-- What a request finds of the approvals is what the cleanup before it left. -/
theorem UsedBy.after {body : Json} {after : SignalingService} {vehicleId sessionId : String}
    {approval : MobileApproval} (hwanes : Wanes c c')
    (h : UsedBy w body c'.service after vehicleId approval sessionId) :
    UsedBy w body c.service after vehicleId approval sessionId :=
  { h with found := hwanes.approved h.found (h.approved ▸ ApprovalState.live_approved) }

theorem DecidedBy.after {token requestId : String} {body : Json} {after : SignalingService}
    {vehicleId : String} {approval approval' : MobileApproval} (hwanes : Wanes c c')
    (h : DecidedBy config token requestId body c'.service after vehicleId approval approval') :
    DecidedBy config token requestId body c.service after vehicleId approval approval' :=
  { h with found := hwanes.approved h.found (h.pending ▸ .inl rfl) }

theorem Creates.after {body : Json} {c₁ : Call} (hwanes : Wanes c c₁)
    (hnone : ∀ id, c.service.sessions.lookup id = none → c₁.service.sessions.lookup id = none)
    (h : Creates config w body c₁ c') : Creates config w body c c' := by
  constructor
  · intro id approval' hfound
    rcases h.approvals id approval' hfound with ⟨approval, hearlier, hbecomes⟩ | hasked | hused
    · obtain ⟨first, hfirst, hbecomes'⟩ := hwanes id approval hearlier
      exact .inl ⟨first, hfirst, hbecomes'.trans hbecomes⟩
    · exact .inr (.inl hasked)
    · obtain ⟨approval, sessionId, hused⟩ := hused
      exact .inr (.inr ⟨approval, sessionId, hused.after hwanes⟩)
  · intro sessionId session hfound hnew hrequires
    obtain ⟨approval, hused, howner⟩ := h.sessions sessionId session hfound (hnone _ hnew) hrequires
    exact ⟨approval, hused.after hwanes, howner⟩

theorem Deciding.after {token requestId : String} {body : Json} {c₁ : Call} (hwanes : Wanes c c₁)
    (h : Deciding config token requestId body c₁ c') (id : String) (approval' : MobileApproval)
    (hfound : c'.service.mobileApprovals.lookup id = some approval') :
    (∃ approval, c.service.mobileApprovals.lookup id = some approval ∧
      approval.Becomes approval') ∨
    ∃ approval, DecidedBy config token requestId body c.service c'.service id approval
      approval' := by
  rcases h id approval' hfound with hearlier | ⟨approval, hdecided⟩
  · exact .inl (hwanes id approval' hearlier)
  · exact .inr ⟨approval, hdecided.after hwanes⟩

theorem serve_creates (hnumbered : c.service.Numbered) (body : Json) :
    Ensures ((Request.createSession body).serve config w) c (fun _ => Creates config w body c)
      fun _ => Creates config w body c := by
  have hfollows : Within (Follows config .none) ((Request.createSession body).prepare config w) :=
    prepare_follows _
  have hquiet : ∀ c₁, Wanes c c₁ → Follows config .none c c₁ → Creates config w body c c₁ := by
    intro c₁ hwanes hfollows
    refine ⟨fun id approval' hfound => .inl (hwanes id approval' hfound), ?_⟩
    intro sessionId session hfound hnone
    have hnone' := Moves.unopened hfollows not_false sessionId hnone
    exact absurd (hfound.symm.trans hnone') (by simp)
  unfold Request.serve
  rw [ensures_bind]
  refine ((carried_wanes.prepare _ c).and (hfollows c)).mono (fun _ c₁ h => ?_)
    fun _ c₁ h => hquiet c₁ h.1 h.2
  obtain ⟨hwanes, hmoves⟩ := h
  have hafter : ∀ c', Creates config w body c₁ c' → Creates config w body c c' :=
    fun _ => Creates.after hwanes (Moves.unopened hmoves not_false)
  exact (createSession_uses (Moves.persists hmoves hnumbered).1 body).mono (fun _ => hafter)
    fun _ => hafter

/-- What a decision does after the cleanup before it. -/
theorem serve_decides (token requestId : String) (body : Json) :
    Ensures ((Request.mobileDecision token requestId body).serve config w) c
      (fun _ c' => ∃ c₁, Wanes c c₁ ∧ Deciding config token requestId body c₁ c')
      fun _ c' => ∃ c₁, Wanes c c₁ ∧ Deciding config token requestId body c₁ c' := by
  unfold Request.serve
  rw [ensures_bind]
  refine (carried_wanes.prepare _ c).mono (fun _ c₁ hwanes => ?_)
    fun _ c₁ hwanes => ⟨c₁, hwanes, fun _ _ => .inl⟩
  exact (mobileDecision_decides token requestId body).mono (fun _ _ h => ⟨c₁, hwanes, h⟩)
    fun _ _ h => ⟨c₁, hwanes, h⟩

theorem step_turns {station : Station} (occasion : Occasion)
    (hnumbered : station.service.Numbered) :
    Turns config ((Station.machine config).observe station occasion) := by
  obtain ⟨w, action⟩ := occasion
  have hwaned : ∀ {service'}, Carried.Spans Wanes station.service service' →
      ∀ id approval', service'.mobileApprovals.lookup id = some approval' →
      ∃ approval, station.service.mobileApprovals.lookup id = some approval ∧
        approval.Becomes approval' := by
    rintro service' ⟨c', hwanes, rfl⟩
    exact hwanes
  have hunopened : (∀ body, action ≠ .request (.createSession body)) → ∀ sessionId session,
      ¬Turn.Opens ((Station.machine config).observe station (w, action)) sessionId session := by
    rintro haction sessionId session ⟨hfound, hnone⟩
    have hnone' : (station.step config (w, action)).2.service.sessions.lookup sessionId = none :=
      step_unopened (w, action) haction sessionId hnone
    exact absurd (hfound.symm.trans hnone') (by simp)
  -- Only two requests make or decide approvals.
  by_cases hasks : ∃ request : Request, action = .request request ∧ request.Asks
  swap
  · have hcreate : ∀ body, action ≠ .request (.createSession body) :=
      fun body haction => hasks ⟨_, haction, trivial⟩
    refine ⟨fun id approval' hfound => .inl ?_, fun sessionId session hopens =>
      absurd hopens (hunopened hcreate sessionId session)⟩
    refine hwaned ?_ id approval' hfound
    by_cases haction : ∀ request, action ≠ .request request
    · exact carried_wanes.step station haction
    · push Not at haction
      obtain ⟨request, rfl⟩ := haction
      exact Carried.spans_of_exec (serve_wanes request fun h => hasks ⟨_, rfl, h⟩) _
  obtain ⟨request, rfl, hrequest⟩ := hasks
  cases request with
  | createSession body =>
    have hserve : Ensures ((Request.createSession body).serve config w) (.start station.service)
        (fun _ => Creates config w body (.start station.service))
        fun _ => Creates config w body (.start station.service) := serve_creates hnumbered body
    have hcreates := ensures_state.mp hserve
    constructor
    · intro id approval' hfound
      rcases hcreates.approvals id approval' hfound with hearlier | hasked | hused
      · exact .inl hearlier
      · exact .inr (.inl ⟨body, rfl, hasked⟩)
      · obtain ⟨approval, sessionId, hused⟩ := hused
        exact .inr (.inr (.inl ⟨approval, sessionId, body, rfl, hused⟩))
    · rintro sessionId session ⟨hfound, hnone⟩ hrequires
      obtain ⟨approval, hused, howner⟩ := hcreates.sessions sessionId session hfound hnone hrequires
      exact ⟨approval, ⟨body, rfl, hused⟩, howner⟩
  | mobileDecision token requestId body =>
    obtain ⟨c₁, hwanes, hdeciding⟩ := ensures_state.mp
      (@serve_decides config w (.start station.service) token requestId body)
    refine ⟨fun id approval' hfound => ?_, fun sessionId session hopens =>
      absurd hopens (hunopened nofun sessionId session)⟩
    rcases hdeciding.after hwanes id approval' hfound with hearlier | ⟨approval, hdecided⟩
    · exact .inl hearlier
    · exact .inr (.inr (.inr ⟨approval, token, requestId, body, rfl, hdecided⟩))
  | _ => exact hrequest.elim

/-! ## Runs -/

/-- What of an approval stays the same from the request to the end. -/
def MobileApproval.asked (approval : MobileApproval) : String × String × ℕ × ℕ × ℤ :=
  (approval.requestId, approval.driverId, approval.driverGeneration, approval.vehicleGeneration,
    approval.deadline)

theorem MobileApproval.Becomes.asked {approval approval' : MobileApproval}
    (h : approval.Becomes approval') : approval'.asked = approval.asked := by
  rcases h with rfl | rfl | rfl <;> rfl

/-- A step of the history has asked for the approval. -/
def Asked (config : SignalingServerConfig) (history : List Turn) (vehicleId : String)
    (approval : MobileApproval) : Prop :=
  ∃ st ∈ history, ∃ first, Turn.Asks config st vehicleId first ∧ first.asked = approval.asked

/-- After it was asked for the approval has been given, and since then no session has been created
on the vehicle. -/
def GivenSince (config : SignalingServerConfig) (history : List Turn) (vehicleId : String)
    (approval : MobileApproval) : Prop :=
  ∃ later decision earlier pending, history = later ++ decision :: earlier ∧
    Turn.Decides config decision vehicleId pending approval ∧
    (∀ st ∈ later, ∀ sessionId session, Turn.Opens st sessionId session →
      session.vehicleId ≠ vehicleId) ∧
    Asked config earlier vehicleId approval

/-- Where every approval of the table comes from. -/
structure Backed (config : SignalingServerConfig) (history : List Turn)
    (service : SignalingService) : Prop where
  numbered : service.Numbered
  asked : ∀ vehicleId approval, service.mobileApprovals.lookup vehicleId = some approval →
    Asked config history vehicleId approval
  given : ∀ vehicleId approval, service.mobileApprovals.lookup vehicleId = some approval →
    config.RequiresApproval vehicleId → approval.state = .approved →
    GivenSince config history vehicleId approval

namespace Turn

variable {st : Turn} {vehicleId sessionId : String} {approval approval' : MobileApproval}

/-- An approval that is used up was given before, and is not afterwards. -/
theorem Uses.spent (h : st.Uses vehicleId approval sessionId) :
    st.before.service.mobileApprovals.lookup vehicleId = some approval ∧
    approval.state = .approved ∧
    ∀ approval', st.after.service.mobileApprovals.lookup vehicleId = some approval' →
      approval'.asked = approval.asked ∧ approval'.state ≠ .approved := by
  obtain ⟨body, -, hused⟩ := h
  refine ⟨hused.found, hused.approved, fun approval' hfound => ?_⟩
  obtain rfl := Option.some.inj (hused.used.symm.trans hfound)
  exact ⟨rfl, nofun⟩

theorem Decides.before (h : st.Decides config vehicleId approval approval') :
    st.before.service.mobileApprovals.lookup vehicleId = some approval ∧
    approval'.asked = approval.asked := by
  obtain ⟨token, requestId, body, -, hdecided⟩ := h
  refine ⟨hdecided.found, ?_⟩
  rw [hdecided.decided]
  rfl

end Turn

theorem Asked.of_asked {history : List Turn} {vehicleId : String}
    {approval approval' : MobileApproval} (h : Asked config history vehicleId approval)
    (hasked : approval'.asked = approval.asked) : Asked config history vehicleId approval' := by
  obtain ⟨first, hfirst, requested, hasks, hsame⟩ := h
  exact ⟨first, hfirst, requested, hasks, hsame.trans hasked.symm⟩

theorem Asked.cons {history : List Turn} {vehicleId : String} {approval : MobileApproval}
    (h : Asked config history vehicleId approval) (st : Turn) :
    Asked config (st :: history) vehicleId approval := by
  obtain ⟨first, hfirst, requested⟩ := h
  exact ⟨first, List.mem_cons_of_mem _ hfirst, requested⟩

section
variable {history : List Turn} {st : Turn} {vehicleId : String} {approval' : MobileApproval}
  (h : Backed config history st.before.service) (hturns : Turns config st)
  (hfound : st.after.service.mobileApprovals.lookup vehicleId = some approval')
include h hturns hfound

theorem Backed.asked_step : Asked config (st :: history) vehicleId approval' := by
  rcases hturns.approvals vehicleId approval' hfound with ⟨approval, hearlier, hbecomes⟩ | hasks |
    ⟨approval, sessionId, huses⟩ | ⟨approval, hdecides⟩
  · exact ((h.asked vehicleId approval hearlier).of_asked hbecomes.asked).cons st
  · exact ⟨st, List.mem_cons_self, approval', hasks, rfl⟩
  · obtain ⟨hearlier, -, hspent⟩ := huses.spent
    exact ((h.asked vehicleId approval hearlier).of_asked (hspent approval' hfound).1).cons st
  · obtain ⟨hearlier, hsame⟩ := hdecides.before
    exact ((h.asked vehicleId approval hearlier).of_asked hsame).cons st

theorem Backed.given_step (hrequires : config.RequiresApproval vehicleId)
    (hgiven : approval'.state = .approved) : GivenSince config (st :: history) vehicleId approval' := by
  rcases hturns.approvals vehicleId approval' hfound with ⟨approval, hearlier, hbecomes⟩ | hasks |
    ⟨approval, sessionId, huses⟩ | ⟨approval, hdecides⟩
  · have hlive : approval'.state.Live := hgiven ▸ ApprovalState.live_approved
    obtain rfl := hbecomes.live hlive
    obtain ⟨later, decision, earlier, pending, rfl, hdecides, hlater, hasked⟩ :=
      h.given vehicleId approval' hearlier hrequires hgiven
    refine ⟨st :: later, decision, earlier, pending, rfl, hdecides, ?_, hasked⟩
    intro turn hturn sessionId session hopens hvehicle
    rcases List.mem_cons.mp hturn with rfl | hturn
    · subst hvehicle
      obtain ⟨used, huses, -⟩ := hturns.sessions sessionId session hopens hrequires
      exact (huses.spent.2.2 approval' hfound).2 hgiven
    · exact hlater turn hturn sessionId session hopens hvehicle
  · obtain ⟨body, -, hasked⟩ := hasks
    exact absurd (hgiven.symm.trans hasked.asked.pending) (by decide)
  · exact absurd hgiven (huses.spent.2.2 approval' hfound).2
  · obtain ⟨hearlier, hsame⟩ := hdecides.before
    exact ⟨[], st, history, approval, rfl, hdecides, fun _ h => absurd h List.not_mem_nil,
      (h.asked vehicleId approval hearlier).of_asked hsame⟩

end

theorem Backed.step {history : List Turn} {station : Station}
    (h : Backed config history station.service) (occasion : Occasion) :
    Backed config ((Station.machine config).observe station occasion :: history)
      (station.step config occasion).2.service where
  numbered := step_numbered occasion h.numbered
  asked _ _ hfound := h.asked_step (step_turns occasion h.numbered) hfound
  given _ _ hfound := h.given_step (step_turns occasion h.numbered) hfound

theorem backed_init : Backed config [] SignalingService.init := by
  have hnone : ∀ vehicleId, SignalingService.init.mobileApprovals.lookup vehicleId = none :=
    fun _ => rfl
  refine ⟨nofun, fun vehicleId approval hfound => ?_, fun vehicleId approval hfound => ?_⟩
  all_goals
    rw [hnone] at hfound
    cases hfound

/-- The step creates the session from an approval that was given for it, and for no other. -/
def Approved (config : SignalingServerConfig) (st : Turn) (past : List Turn) (sessionId : String)
    (session : Session) : Prop :=
  ∃ approval, st.Uses session.vehicleId approval sessionId ∧
    approval.driverId = session.driverId ∧
    GivenSince config past session.vehicleId approval

theorem sessions_approved {history : History Station Occasion Outcome} {station : Station}
    (hrun : Run (Station.machine config) history station) :
    Always (fun st past => ∀ sessionId session, Turn.Opens st sessionId session →
      config.RequiresApproval session.vehicleId → Approved config st past sessionId session)
      history := by
  refine hrun.always_of_link (C := fun _ => True)
    (R := fun history station => Backed config history station.service)
    backed_init (fun _ _ occasion _ h _ => h.step occasion) ?_ (steps_true history)
  rintro history station occasion - h - sessionId session hopens hrequires
  obtain ⟨approval, huses, howner⟩ :=
    (step_turns occasion h.numbered).sessions sessionId session hopens hrequires
  obtain ⟨hearlier, hgiven, -⟩ := huses.spent
  exact ⟨approval, huses, howner, h.given _ approval hearlier hrequires hgiven⟩

/-- The vehicle needs an approval. -/
def approvalConfig : SignalingServerConfig :=
  { exampleConfig with mobileAppPassword := "app", mobileApprovalVehicles := ["truck"] }

/-- The driver asks, an approver gives, and the driver asks again. -/
def approvedCreation : List Occasion :=
  [(smoothly 1000 "one", .request exampleLogin), (smoothly 1001 "two", .request exampleOnline),
    (smoothly 1002 "three", .request exampleCreate),
    (smoothly 1003 "four", .request (.mobileLogin "phone" (texts [("password", "app")]))),
    (smoothly 1004 "five", .request (.mobileDecision "approver-token-four" "approval-three"
      (texts [("decision", "approve")]))),
    (smoothly 1005 "six", .request exampleCreate)]

theorem sessions_approved_creation :
    (∃ session ∈ ((Station.machine approvalConfig).play approvedCreation).2.service.sessions.lookup
      "session-000001", session.Open) ∧
    Always (fun st past => ∀ sessionId session, Turn.Opens st sessionId session →
      approvalConfig.RequiresApproval session.vehicleId →
      Approved approvalConfig st past sessionId session)
      ((Station.machine approvalConfig).play approvedCreation).1 :=
  ⟨by decide +kernel, sessions_approved (.play _ _)⟩

end MineTeleop.Signaling
