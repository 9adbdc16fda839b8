import MineTeleop.Signaling.Aside

/-!
# What a call can do to sessions and mailboxes

`Move` lists the steps between two moments at which a call can be interrupted; every handler
follows them, whether it returns or throws.

Proved here, for every configuration and every circumstances:

* `closeSession_moves`, `cleanup_moves`: closing sessions and the cleanup are sequences of moves;
* `admitMessage_admits`, `enqueueSignalingMessage_moves`: what a message has to be before it is
  queued;
* `createSession_follows`: a new session is abandoned only where a record that announces it has
  been refused.
-/

namespace MineTeleop.Signaling

open Documents Programs Tables Runs
open Service (ProtocolMetadata)

variable {config : SignalingServerConfig} {w : Circumstances}

/-! ## Moves -/

namespace SignalingService

/-- The first thing that is done to a session that is closed. -/
def empty (service : SignalingService) (sessionId : String) (session : Session) :
    SignalingService :=
  (service.adjustSession sessionId
    ({ · with controlToken := "", controlTokenExpiresAtMs := 0 })).forgetMailboxes sessionId session

def setState (service : SignalingService) (sessionId : String) (state : SessionState) :
    SignalingService :=
  service.adjustSession sessionId ({ · with state := state })

def renew (service : SignalingService) (sessionId : String) (expiresAtMs : ℤ) :
    SignalingService :=
  service.adjustSession sessionId ({ · with controlTokenExpiresAtMs := expiresAtMs })

/-- A service that has stored one more session. -/
def addSession (service : SignalingService) (session : Session) : SignalingService :=
  { service with
    sessionCounter := service.sessionCounter + 1
    sessions := service.sessions.insert (sessionName (service.sessionCounter + 1)) session }

/-- A message in its mailbox, and remembered as the last one of its sender. -/
def queue (service : SignalingService) (accepted : Accepted) : SignalingService :=
  ((service.countDelivery accepted.post.recipientKey).deliver accepted.post
    accepted.message).remember accepted.post accepted.acknowledgement

end SignalingService

/-- What has been checked of a message before its sequence number is looked at. -/
structure Post.Admitted (post : Post) (service : SignalingService) : Prop where
  active : ∃ session ∈ service.sessions.lookup post.sessionId, session.state = .active ∧
    session.Participant post.sender ∧ session.Participant post.fingerprint.recipient ∧
    (post.type = "control_command" →
      post.sender = session.driverId ∧ post.fingerprint.recipient = session.vehicleId)
  other : post.sender ≠ post.fingerprint.recipient
  type : post.type ∈ messageTypes
  session : post.fingerprint.metadata.sessionId = post.sessionId

/-- The message and the acknowledgement are the ones that the post gives. -/
structure Accepted.From (accepted : Accepted) (service : SignalingService) : Prop where
  metadata : accepted.message.metadata = accepted.post.fingerprint.metadata
  sender : accepted.message.sender = accepted.post.sender
  recipient : accepted.message.recipient = accepted.post.fingerprint.recipient
  type : accepted.message.type = accepted.post.type
  payload : accepted.message.payload = accepted.post.fingerprint.payload
  cursor : accepted.message.deliveryCursor = service.cursorAfter accepted.post.recipientKey
  acknowledged : accepted.acknowledgement.deliveryCursor = accepted.message.deliveryCursor
  seq : accepted.acknowledgement.seq = accepted.post.seq
  fresh : accepted.acknowledgement.duplicate = false

/-- Which of the moves below the occasion of a call gives grounds for. -/
structure Grounds where
  opens : Prop
  queues : Prop
  abandons : Prop
  consumes : String → String → Prop
  acknowledges : String → ℕ → Bool → Prop

def Grounds.none : Grounds := ⟨False, False, False, fun _ _ => False, fun _ _ _ => False⟩

inductive Move (config : SignalingServerConfig) (g : Grounds) : Call → Call → Prop
  | aside {c c' : Call} (h : Away c c') : Move config g c c'
  | counted (c : Call) : Move config g c { c with
      service := { c.service with sessionCounter := c.service.sessionCounter + 1 } }
  | opened (c : Call) (session : Session) (h : session.state = .online) (hopens : g.opens) :
      Move config g c { c with service := c.service.addSession session }
  | advanced (c : Call) {sessionId : String} {session : Session} {next : SessionState}
      (hfound : c.service.sessions.lookup sessionId = some session)
      (hallowed : session.state.Allowed next) (hstopping : next ≠ .stopping)
      (hclosed : next ≠ .closed) :
      Move config g c { c with service := c.service.setState sessionId next }
  | renewed (c : Call) {sessionId : String} {session : Session} (expiresAtMs : ℤ)
      (hfound : c.service.sessions.lookup sessionId = some session)
      (hactive : session.state = .active) :
      Move config g c { c with service := c.service.renew sessionId expiresAtMs }
  | emptied (c : Call) {sessionId : String} {session : Session}
      (hfound : c.service.sessions.lookup sessionId = some session)
      (hopen : session.state ≠ .closed) (hstays : ¬session.state.Allowed .stopping) :
      Move config g c { c with service := c.service.empty sessionId session }
  | stopped (c : Call) {sessionId : String} {session : Session}
      (hfound : c.service.sessions.lookup sessionId = some session)
      (hallowed : session.state.Allowed .stopping) :
      Move config g c { c with
        service := (c.service.empty sessionId session).setState sessionId .stopping }
  | closed (c : Call) {sessionId : String} {session : Session}
      (hfound : c.service.sessions.lookup sessionId = some session)
      (hover : session.state = .stopping ∨ session.state = .closed) :
      Move config g c { c with service := c.service.setState sessionId .closed }
  | abandoned (c : Call) {sessionId : String} (h : g.abandons) :
      Move config g c { c with service := c.service.setState sessionId .closed }
  | expired (c : Call) (recipientKey : String) (monotonicMs : ℤ) :
      Move config g c { c with service := c.service.expireMessages config recipientKey monotonicMs }
  | consumed (c : Call) {recipientKey requested : String} (h : g.consumes recipientKey requested) :
      Move config g c { c with service := c.service.consumeMessages recipientKey requested }
  | acknowledged (c : Call) {recipientKey : String} {deliveryCursor : ℕ} {controlOnly : Bool}
      (h : g.acknowledges recipientKey deliveryCursor controlOnly) :
      Move config g c { c with
        service := c.service.acknowledge recipientKey deliveryCursor controlOnly }
  | queued (c : Call) {accepted : Accepted} (hadmitted : accepted.post.Admitted c.service)
      (hnext : c.service.verdict accepted.post = .next)
      (hfrom : accepted.From c.service) (hqueues : g.queues) :
      Move config g c { c with
        service := c.service.queue accepted
        queued := c.queued ++ [accepted] }

abbrev Moves (config : SignalingServerConfig) (g : Grounds) : Call → Call → Prop :=
  Relation.ReflTransGen (Move config g)

instance (g : Grounds) : Std.Refl (Moves config g) := ⟨fun _ => .refl⟩

instance (g : Grounds) : IsTrans Call (Moves config g) := ⟨fun _ _ _ => .trans⟩

section
variable {g : Grounds} {α : Type}

theorem within_moves_away {p : Handler α} (h : Within Away p) : Within (Moves config g) p :=
  h.mono fun _ _ h => .single (.aside h)

theorem within_moves {p : Handler α} (h : Within Aside p) : Within (Moves config g) p :=
  within_moves_away h.apart.away

/-! ## Closing -/

section
variable {c : Call} {Q : Unit → Call → Prop} {R : Refusal → Call → Prop}

/-- A record that is asked for changes nothing else, whether it is written or not. -/
theorem audit_cases {record : AuditRecord}
    (hok : ∀ c', c'.service = c.service → Away c c' → Q () c')
    (hthrow : ∀ e c', c'.service = c.service → Away c c' → R e c') :
    Ensures (audit w record) c Q R :=
  .refuseIf (fun _ => hok _ rfl ⟨rfl, List.prefix_append _ _⟩) fun _ =>
    hthrow _ _ rfl ⟨rfl, List.prefix_append _ _⟩

theorem transitionSession_cases {sessionId reason : String} {next : SessionState}
    {session : Session} (hfound : c.service.sessions.lookup sessionId = some session)
    (hsame : session.state = next → Q () c)
    (hforbidden : ¬session.state.Allowed next → ∀ e, R e c)
    (hmoved : session.state.Allowed next →
      Ensures (audit w (transitionRecord sessionId session next reason))
        { c with service := c.service.setState sessionId next } Q R) :
    Ensures (transitionSession w sessionId next reason) c Q R := by
  unfold transitionSession
  rw [ensures_bind, ensures_theService, hfound]
  refine .whenever (fun _ => ?_) fun h => hsame (not_not.mp h)
  rw [ensures_bind]
  refine .refuseIf (fun hallowed => ?_) fun h => hforbidden h _
  exact hmoved (not_not.mp hallowed)

end

theorem lookup_setState {service : SignalingService} {sessionId : String} {session : Session}
    (state : SessionState) (hfound : service.sessions.lookup sessionId = some session) :
    (service.setState sessionId state).sessions.lookup sessionId =
      some { session with state := state } := by
  show (service.sessions.adjust sessionId _).lookup sessionId = _
  rw [Table.lookup_adjust_self, hfound]
  rfl

theorem lookup_empty {service : SignalingService} {sessionId : String} {session : Session}
    (hfound : service.sessions.lookup sessionId = some session) :
    (service.empty sessionId session).sessions.lookup sessionId =
      some { session with controlToken := "", controlTokenExpiresAtMs := 0 } := by
  show (service.sessions.adjust sessionId _).lookup sessionId = _
  rw [Table.lookup_adjust_self, hfound]
  rfl

theorem closeSession_moves (sessionId reason : String) :
    Within (Moves config g) (closeSession w sessionId reason) := by
  intro c
  unfold closeSession
  rw [ensures_bind, ensures_theService]
  cases hfound : c.service.sessions.lookup sessionId with
  | none => exact .refl
  | some session =>
    refine .whenever (fun hopen => ?_) fun _ => .refl
    simp only [ensures_bind, ensures_update]
    change Ensures _ { c with service := c.service.empty sessionId session } _ _
    have hempty := lookup_empty hfound
    have hmove (hstays : ¬session.state.Allowed .stopping) :
        Moves config g c { c with service := c.service.empty sessionId session } :=
      .single (.emptied c hfound hopen hstays)
    -- From a stopping session on there is one transition left.
    have hlast : ∀ {c' : Call} {session' : Session}, Moves config g c c' →
        c'.service.sessions.lookup sessionId = some session' → session'.state = .stopping →
        Ensures (transitionSession w sessionId .closed reason) c' (fun _ => Moves config g c)
          fun _ => Moves config g c := by
      intro c' session' hc' hfound' hstate
      refine transitionSession_cases hfound' (fun _ => hc') (fun _ _ => hc') fun _ => ?_
      have hc'' := hc'.tail (.closed c' hfound' (.inl hstate))
      exact (within_moves (Aside.audit _) _).mono (fun _ _ => hc''.trans) fun _ _ => hc''.trans
    refine .whenever (fun hstate => ?_) fun hstate =>
      hlast (hmove (by rw [not_not.mp hstate]; decide)) hempty (not_not.mp hstate)
    refine transitionSession_cases hempty (fun h => absurd h hstate) (fun h _ => hmove h) ?_
    intro hallowed
    have hstopped : Moves config g c { c with
        service := (c.service.empty sessionId session).setState sessionId .stopping } :=
      .single (.stopped c hfound hallowed)
    refine audit_cases (fun c' hservice haside => ?_) fun _ c' _ haside =>
      hstopped.tail (.aside haside)
    have hfound' := (congrArg (·.sessions.lookup sessionId) hservice).trans
      (lookup_setState .stopping hempty)
    exact hlast (hstopped.tail (.aside haside)) hfound' rfl

theorem closeSessions_moves (chosen : Session → Bool) (reason : String) :
    Within (Moves config g) (closeSessions w chosen reason) := by
  refine (within_moves Aside.theService).bind fun _ =>
    (within_moves (Aside.loopOver _)).bind fun keys => .forM (fun sessionId => ?_) keys
  refine (within_moves Aside.theService).bind fun s => ?_
  cases s.sessions.lookup sessionId with
  | none => exact .pure _
  | some session => exact .whenever (closeSession_moves sessionId reason)

/-! ## Running out -/

theorem expireDriverToken_moves (timestampMs : ℤ) (token : String) :
    Within (Moves config g) (expireDriverToken w timestampMs token) := by
  refine (within_moves Aside.theService).bind fun s => ?_
  cases s.driverTokens.lookup token with
  | none => exact .pure _
  | some found =>
    exact .whenever (.bind (within_moves_away (Away.update fun _ => rfl)) fun _ =>
      (within_moves Aside.theService).bind fun _ => .whenever
        (.bind (within_moves_away (Away.update fun _ => rfl)) fun _ =>
          (closeSessions_moves _ _).bind fun _ => within_moves (Aside.audit _)))

theorem expireSession_moves (timestampMs : ℤ) (sessionId : String) :
    Within (Moves config g) (expireSession w timestampMs sessionId) := by
  refine (within_moves Aside.theService).bind fun s => ?_
  cases s.sessions.lookup sessionId with
  | none => exact .pure _
  | some session =>
    exact .whenever ((closeSession_moves _ _).bind fun _ => within_moves (Aside.audit _))

theorem expireVehicle_moves (timestampMs : ℤ) (vehicleId : String) :
    Within (Moves config g) (expireVehicle config w timestampMs vehicleId) := by
  refine (within_moves Aside.theService).bind fun s => ?_
  cases s.onlineVehicles.lookup vehicleId with
  | none => exact .pure _
  | some presence =>
    exact .whenever (.bind (within_moves_away (Away.update fun _ => rfl)) fun _ =>
      (closeSessions_moves _ _).bind fun _ => within_moves (Aside.audit _))

theorem expireDriver_moves (timestampMs : ℤ) (driverId : String) :
    Within (Moves config g) (expireDriver config w timestampMs driverId) := by
  refine (within_moves Aside.theService).bind fun s => ?_
  cases s.onlineDrivers.lookup driverId with
  | none => exact .pure _
  | some presence =>
    exact .whenever (.bind (within_moves_away (Away.update fun _ => rfl)) fun _ =>
      (closeSessions_moves _ _).bind fun _ => within_moves (Aside.audit _))

theorem cleanup_moves (timestampMs : ℤ) :
    Within (Moves config g) (cleanupExpiredConnections config w timestampMs) :=
  (within_moves Aside.theService).bind fun _ => (within_moves (Aside.loopOver _)).bind fun tokens =>
    (Within.forM (expireDriverToken_moves timestampMs) tokens).bind fun _ =>
    (within_moves Aside.theService).bind fun _ => (within_moves (Aside.loopOver _)).bind fun ids =>
    (Within.forM (expireSession_moves timestampMs) ids).bind fun _ =>
    (within_moves Aside.theService).bind fun _ =>
    (within_moves (Aside.loopOver _)).bind fun vehicles =>
    (Within.forM (expireVehicle_moves timestampMs) vehicles).bind fun _ =>
    (within_moves Aside.theService).bind fun _ =>
    (within_moves (Aside.loopOver _)).bind fun drivers =>
    (Within.forM (expireDriver_moves timestampMs) drivers).bind fun _ =>
    within_moves_away Apart.cleanupMobileApprovals.away

/-! ## Mailboxes -/

theorem takeSignalingMessages_moves (sessionId recipient requested : String) {consume : Bool}
    (h : consume = true → g.consumes (messageKey sessionId recipient) requested) :
    Within (Moves config g)
      (takeSignalingMessages config w sessionId recipient requested consume) :=
  (within_moves Aside.monotonicNowMs).bind fun monotonicMs =>
    .bind (Within.modify fun c => .single (.expired c _ monotonicMs)) fun _ =>
    (within_moves Aside.theService).bind fun _ => .bind
      (fun c => .whenever (fun hc => .single (.consumed c (h hc))) fun _ => .refl) fun _ => .pure _

theorem acknowledgeSignalingMessages_moves {sessionId recipient : String} {deliveryCursor : ℕ}
    {controlOnly : Bool}
    (h : g.acknowledges (messageKey sessionId recipient) deliveryCursor controlOnly) :
    Within (Moves config g)
      (acknowledgeSignalingMessages sessionId recipient deliveryCursor controlOnly) :=
  (within_moves Aside.theService).bind fun _ =>
    .bind (Within.modify fun c => .single (.acknowledged c h)) fun _ =>
    (within_moves Aside.theService).bind fun _ => .pure _

theorem moves_of_queued {c c' : Call} {accepted : Accepted}
    (hqueued : c'.queued = c.queued ++ [accepted])
    (hservice : c'.service = c.service.queue accepted) (hasked : c'.asked = c.asked)
    (hadmitted : accepted.post.Admitted c.service)
    (hnext : c.service.verdict accepted.post = .next)
    (hfrom : accepted.From c.service) (hqueues : g.queues) : Moves config g c c' := by
  refine .tail (.single (.queued c hadmitted hnext hfrom hqueues))
    (.aside ⟨?_, hasked ▸ List.prefix_rfl⟩)
  rw [Call.traffic, Call.traffic, hqueued, hservice]

theorem queueMessage_moves {c : Call} {post : Post} (receivedAtUtcMs receivedMonotonicMs : ℤ)
    (hadmitted : post.Admitted c.service) (hnext : c.service.verdict post = .next)
    (hqueues : g.queues) :
    Ensures (queueMessage w receivedAtUtcMs receivedMonotonicMs post) c
      (fun _ => Moves config g c) fun _ => Moves config g c := by
  unfold queueMessage nowMs monotonicNowMs steadyNow
  simp only [ensures_bind, ensures_theService, ensures_update, ensures_look, ensures_pure,
    ensures_modify]
  refine (within_moves (Within.whenever (Aside.audit _)) _).mono (fun _ _ => .trans ?_)
    fun _ _ => .trans ?_
  all_goals
    exact moves_of_queued rfl rfl rfl hadmitted hnext
      ⟨rfl, rfl, rfl, rfl, rfl, rfl, rfl, rfl, rfl⟩ hqueues

/-! ## Posts -/

section
variable {c : Call}

theorem requireParticipant_ensures (sessionId participant : String) :
    Ensures (requireParticipant sessionId participant) c
      (fun session c' => c' = c ∧ c.service.sessions.lookup sessionId = some session ∧
        session.state = .active ∧ session.Participant participant) fun _ c' => c' = c := by
  unfold requireParticipant requireActiveSession
  simp only [ensures_bind, ensures_theService]
  cases hfound : c.service.sessions.lookup sessionId with
  | none => exact rfl
  | some session =>
    rw [ensures_bind]
    refine .refuseIf (fun hactive => ?_) fun _ => rfl
    rw [ensures_pure]
    exact .refuseIf (fun hparticipant => ⟨rfl, rfl, not_not.mp hactive, not_not.mp hparticipant⟩)
      fun _ => rfl

theorem checkRoute_ok {session : Session} {sender recipient type : String} {u : Unit}
    (h : checkRoute session sender recipient type = .ok u) :
    session.Participant recipient ∧ sender ≠ recipient ∧
      (type = "control_command" → sender = session.driverId ∧ recipient = session.vehicleId) := by
  obtain ⟨_, hrecipient, h⟩ := Service.bind_ok h
  obtain ⟨_, hother, h⟩ := Service.bind_ok h
  obtain ⟨_, -, h⟩ := Service.bind_ok h
  obtain ⟨_, -, h⟩ := Service.bind_ok h
  obtain ⟨_, hcontrol, -⟩ := Service.bind_ok h
  refine ⟨?_, rejectIf_ok hother, fun htype => ?_⟩
  · have hneither := rejectIf_ok hrecipient
    unfold Session.Participant
    tauto
  · have hroute := rejectIf_ok hcontrol
    tauto

theorem validateMessageMetadata_ok {sessionId : String} {session : Session}
    {metadata : ProtocolMetadata} {u : Unit}
    (h : validateMessageMetadata sessionId session metadata = .ok u) :
    metadata.sessionId = sessionId := by
  obtain ⟨_, -, h⟩ := Service.bind_ok h
  have hsame := rejectIf_ok h
  tauto

theorem admitMessage_admits (sessionId : String) (value : Json) (actor : Option String) :
    Ensures (admitMessage config w sessionId value actor) c
      (fun post c' => Aside c c' ∧ post.Admitted c'.service ∧ post.sessionId = sessionId)
      fun _ c' => Aside c c' := by
  have hrefl : Aside c c := Std.Refl.refl c
  unfold admitMessage
  simp only [ensures_bind]
  refine .liftResult (fun sender _ => ?_) fun _ _ => hrefl
  refine .liftResult (fun recipient _ => ?_) fun _ _ => hrefl
  refine .liftResult (fun type _ => ?_) fun _ _ => hrefl
  refine .refuseIf (fun htype => ?_) fun _ => hrefl
  refine (requireParticipant_ensures sessionId sender).mono ?_ fun _ _ h => h ▸ hrefl
  rintro session _ ⟨rfl, hfound, hactive, hsender⟩
  refine (Aside.authenticateSender session sender value actor _).mono (fun _ c' haside => ?_)
    fun _ _ => id
  refine .liftResult (fun metadata _ => ?_) fun _ _ => haside
  refine .liftResult (fun _ hmetadata => ?_) fun _ _ => haside
  refine .liftResult (fun _ hroute => ?_) fun _ _ => haside
  refine .liftResult (fun _ _ => ?_) fun _ _ => haside
  obtain ⟨hrecipient, hother, hcontrol⟩ := checkRoute_ok hroute
  have hfound' := (congrArg (·.sessions.lookup sessionId) haside.traffic).trans hfound
  exact ⟨haside, ⟨⟨session, hfound', hactive, hsender, hrecipient, hcontrol⟩, hother,
    not_not.mp htype, validateMessageMetadata_ok hmetadata⟩, rfl⟩

theorem enqueueSignalingMessage_moves (sessionId : String) (value : Json)
    (actor : Option String) (hqueues : g.queues) :
    Within (Moves config g) (enqueueSignalingMessage config w sessionId value actor) := by
  refine (within_moves Aside.nowMs).bind fun receivedAtUtcMs =>
    (within_moves Aside.monotonicNowMs).bind fun receivedMonotonicMs c => ?_
  rw [ensures_bind]
  refine (admitMessage_admits sessionId value actor).mono ?_ fun _ _ h => .single (.aside h.toAway)
  rintro post c' ⟨haside, hadmitted, -⟩
  have hmove : Moves config g c c' := .single (.aside haside.toAway)
  rw [ensures_bind, ensures_theService]
  cases hverdict : c'.service.verdict post with
  | older => exact hmove
  | reused => exact hmove
  | retry acknowledgement =>
    exact ((within_moves (Aside.audit _)).bind (fun _ => .pure _) _).mono (fun _ _ => hmove.trans)
      fun _ _ => hmove.trans
  | next =>
    exact (queueMessage_moves receivedAtUtcMs receivedMonotonicMs hadmitted hverdict hqueues).mono
      (fun _ _ => hmove.trans) fun _ _ => hmove.trans

end

/-! ## New sessions -/

/-- The records that a new session is announced with, up to its activation. -/
def AuditRecord.Granting (record : AuditRecord) : Prop :=
  record.event = "session_created" ∨
    (record.event = "session_state_changed" ∧
      ∃ next ∈ [SessionState.reserved, .connecting, .active],
        record.details.lookup "to" = some (.string next.text))

instance (record : AuditRecord) : Decidable record.Granting :=
  inferInstanceAs (Decidable (_ ∨ _))

/-- None of them has been refused. -/
def GrantsWritten (asked : List (AuditRecord × Bool)) : Prop :=
  ∀ entry ∈ asked, entry.1.Granting → entry.2 = true

instance (asked : List (AuditRecord × Bool)) : Decidable (GrantsWritten asked) :=
  inferInstanceAs (Decidable (∀ entry ∈ asked, _))

theorem not_grantsWritten {asked : List (AuditRecord × Bool)} {record : AuditRecord}
    (h : record.Granting) : ¬GrantsWritten (asked ++ [(record, false)]) := fun hwritten => by
  simpa using hwritten (record, false) (by simp) h

theorem transitionRecord_granting {sessionId reason : String} {session : Session}
    {next : SessionState} (h : next ∈ [SessionState.reserved, .connecting, .active]) :
    (transitionRecord sessionId session next reason).Granting :=
  .inr ⟨rfl, next, h, by simp [transitionRecord, Session.details, List.lookup_cons]⟩

/-- The session is on its way out. -/
def SignalingService.Over (service : SignalingService) (sessionId : String) : Prop :=
  ∃ session ∈ service.sessions.lookup sessionId,
    session.state = .stopping ∨ session.state = .closed

theorem over_of_lookup {service : SignalingService} {sessionId : String} {session : Session}
    (hfound : service.sessions.lookup sessionId = some session)
    (h : session.state = .stopping ∨ session.state = .closed) : service.Over sessionId :=
  ⟨session, hfound, h⟩

/-- Wherever it is interrupted, closing an active session has stopped it. -/
theorem closeSession_over {c : Call} {sessionId reason : String} {session : Session}
    (hfound : c.service.sessions.lookup sessionId = some session)
    (hactive : session.state = .active) :
    Ensures (closeSession w sessionId reason) c (fun _ c' => c'.service.Over sessionId)
      fun _ c' => c'.service.Over sessionId := by
  unfold closeSession
  rw [ensures_bind, ensures_theService, hfound]
  refine .whenever (fun _ => ?_) fun h => absurd (hactive.symm.trans (not_not.mp h)) (by decide)
  simp only [ensures_bind, ensures_update]
  change Ensures _ { c with service := c.service.empty sessionId session } _ _
  have hempty := lookup_empty hfound
  refine .whenever (fun _ => ?_) fun h => absurd (hactive.symm.trans (not_not.mp h)) (by decide)
  refine transitionSession_cases hempty (fun h => absurd (hactive.symm.trans h) (by decide))
    (fun h => absurd (hactive ▸ h) (by decide)) fun _ => ?_
  have hstopped := lookup_setState .stopping hempty
  rw [ensures_audit]
  split
  · refine transitionSession_cases hstopped (fun _ => over_of_lookup hstopped (.inl rfl))
      (fun _ _ => over_of_lookup hstopped (.inl rfl)) fun _ => ?_
    have hclosed := over_of_lookup (lookup_setState .closed hstopped) (.inr rfl)
    rw [ensures_audit]
    split <;> exact hclosed
  · exact over_of_lookup hstopped (.inl rfl)

/-- The session has come as far as `state`. -/
def Granted (config : SignalingServerConfig) (g : Grounds) (sessionId : String)
    (state : SessionState) (c c' : Call) : Prop :=
  Moves config g c c' ∧ ∃ session ∈ c'.service.sessions.lookup sessionId, session.state = state

/-- A record of the grant has been refused, or the session is on its way out. -/
def Spoiled (config : SignalingServerConfig) (g : Grounds) (sessionId : String) (c c' : Call) :
    Prop :=
  Moves config g c c' ∧ (GrantsWritten c'.asked → c'.service.Over sessionId)

section
variable {c c' : Call} {sessionId reason : String}

/-- A granting transition goes through, or its record is refused. -/
theorem grant_transition {previous next : SessionState}
    (h : Granted config g sessionId previous c c') (hallowed : previous.Allowed next)
    (hnext : next ∈ [SessionState.reserved, .connecting, .active]) :
    Ensures (transitionSession w sessionId next reason) c'
      (fun _ => Granted config g sessionId next c) fun _ => Spoiled config g sessionId c := by
  obtain ⟨hmoves, session, hfound, rfl⟩ := h
  have hstopping : next ≠ .stopping := by
    rintro rfl
    simp at hnext
  have hclosed : next ≠ .closed := by
    rintro rfl
    simp at hnext
  have hmove := hmoves.tail (.advanced c' hfound hallowed hstopping hclosed)
  refine transitionSession_cases hfound (fun hsame => ⟨hmoves, session, hfound, hsame⟩)
    (fun h => absurd hallowed h) fun _ => ?_
  rw [ensures_audit]
  split
  · exact ⟨hmove.tail (.aside ⟨rfl, List.prefix_append _ _⟩), _, lookup_setState next hfound, rfl⟩
  · exact ⟨hmove.tail (.aside ⟨rfl, List.prefix_append _ _⟩),
      fun h => absurd h (not_grantsWritten (transitionRecord_granting hnext))⟩

theorem closeSession_spoils (h : Granted config g sessionId .active c c') :
    Ensures (closeSession w sessionId reason) c' (fun _ => Spoiled config g sessionId c)
      fun _ => Spoiled config g sessionId c := by
  obtain ⟨hmoves, session, hfound, hactive⟩ := h
  exact ((closeSession_moves sessionId reason c').and (closeSession_over hfound hactive)).mono
    (fun _ _ h => ⟨hmoves.trans h.1, fun _ => h.2⟩) fun _ _ h => ⟨hmoves.trans h.1, fun _ => h.2⟩

theorem grantAuthority_moves {session : Session}
    (h : Granted config g sessionId .online c c') :
    Ensures (grantAuthority config w sessionId session) c' (fun _ => Moves config g c)
      fun _ => Spoiled config g sessionId c := by
  unfold grantAuthority
  rw [ensures_bind, ensures_audit]
  have hasked : ∀ entry, Moves config g c { c' with asked := c'.asked ++ [entry] } :=
    fun _ => h.1.tail (.aside ⟨rfl, List.prefix_append _ _⟩)
  split
  swap
  · exact ⟨hasked _, fun h => absurd h (not_grantsWritten (.inl rfl))⟩
  refine (grant_transition ⟨hasked _, h.2⟩ (by decide) (by simp)).bind fun _ _ h => ?_
  refine (grant_transition h (by decide) (by simp)).bind fun _ _ h => ?_
  refine (grant_transition h (by decide) (by simp)).bind fun _ c₁ h => ?_
  simp only [ensures_bind, ensures_theService, ensures_tryAudit]
  have haway : ∀ entry, Away c₁ { c₁ with asked := c₁.asked ++ [entry] } :=
    fun _ => ⟨rfl, List.prefix_append _ _⟩
  have hmoves := fun entry => h.1.tail (.aside (haway entry))
  refine .whenever (fun _ => ?_) fun _ => hmoves _
  rw [ensures_bind]
  exact closeSession_spoils ⟨hmoves _, h.2⟩

theorem openSession_moves {c : Call} (driverId vehicleId : String) (hopens : g.opens) :
    Ensures (openSession config w driverId vehicleId) c
      (fun created c' => Granted config g created.1 .online c c') fun _ => Moves config g c := by
  unfold openSession nowMs randomToken
  simp only [ensures_bind, ensures_theService, ensures_update, ensures_look]
  cases w.random (c.looks + 1) with
  | none => exact .tail (.single (.counted c)) (.aside ⟨rfl, List.prefix_rfl⟩)
  | some token =>
    rw [ensures_pure]
    refine .whenever (fun _ => ⟨?_, _, AList.lookup_insert _, rfl⟩)
      fun _ => ⟨?_, _, AList.lookup_insert _, rfl⟩
    all_goals
      exact .tail (.single (.opened c _ rfl hopens)) (.aside ⟨rfl, List.prefix_rfl⟩)

end

/-- What a call may do, given the records that it has been refused. -/
def Grounds.given (g : Grounds) (asked : List (AuditRecord × Bool)) : Grounds :=
  { g with abandons := ¬GrantsWritten asked }

theorem Moves.mono {g' : Grounds} {c c' : Call} (h : Moves config g c c')
    (hopens : g.opens → g'.opens) (hqueues : g.queues → g'.queues)
    (habandons : g.abandons → g'.abandons)
    (hconsumes : ∀ k r, g.consumes k r → g'.consumes k r)
    (hacknowledges : ∀ k n b, g.acknowledges k n b → g'.acknowledges k n b) :
    Moves config g' c c' := by
  refine Relation.ReflTransGen.mono (fun c c' h => ?_) _ _ h
  cases h with
  | aside h => exact .aside h
  | counted => exact .counted _
  | opened session h hopened => exact .opened _ session h (hopens hopened)
  | advanced hfound hallowed hstopping hclosed =>
    exact .advanced _ hfound hallowed hstopping hclosed
  | renewed expiresAtMs hfound hactive => exact .renewed _ expiresAtMs hfound hactive
  | emptied hfound hopen hstays => exact .emptied _ hfound hopen hstays
  | stopped hfound hallowed => exact .stopped _ hfound hallowed
  | closed hfound hover => exact .closed _ hfound hover
  | abandoned h => exact .abandoned _ (habandons h)
  | expired recipientKey monotonicMs => exact .expired _ recipientKey monotonicMs
  | consumed h => exact .consumed _ (hconsumes _ _ h)
  | acknowledged h => exact .acknowledged _ (hacknowledges _ _ _ h)
  | queued hadmitted hnext hfrom hqueued =>
    exact .queued _ hadmitted hnext hfrom (hqueues hqueued)

/-- Every move keeps what has been asked for on record. -/
theorem Moves.asked {c c' : Call} (h : Moves config g c c') : c.asked <+: c'.asked := by
  induction h with
  | refl => exact List.prefix_rfl
  | tail _ hstep ih =>
    refine ih.trans ?_
    cases hstep with
    | aside h => exact h.asked
    | _ => exact List.prefix_rfl

/-- `Moves` with the grounds that the records give at the end. -/
def Follows (config : SignalingServerConfig) (g : Grounds) (c c' : Call) : Prop :=
  Moves config (g.given c'.asked) c c'

theorem GrantsWritten.of_prefix {asked asked' : List (AuditRecord × Bool)}
    (h : GrantsWritten asked') (hpre : asked <+: asked') : GrantsWritten asked :=
  fun entry hentry => h entry (hpre.subset hentry)

instance : Std.Refl (Follows config g) := ⟨fun _ => .refl⟩

instance : IsTrans Call (Follows config g) where
  trans _ c' c'' h h' := by
    refine Relation.ReflTransGen.trans (Moves.mono h id id (fun hrefused hwritten => ?_)
      (fun _ _ h => h) fun _ _ _ h => h) h'
    exact hrefused (hwritten.of_prefix (Moves.asked h'))

theorem follows_away {p : Handler α} (h : Within Away p) : Within (Follows config g) p :=
  h.mono fun _ _ h => .single (.aside h)

theorem follows_aside {p : Handler α} (h : Within Aside p) : Within (Follows config g) p :=
  follows_away h.apart.away

theorem follows_moves {p : Handler α} (h : Within (Moves config .none) p) :
    Within (Follows config g) p :=
  h.mono fun _ _ h =>
    Moves.mono h False.elim False.elim False.elim (fun _ _ => False.elim) fun _ _ _ => False.elim

/-- The same, with grounds that the records have no part in. -/
theorem follows_of_moves {p : Handler α}
    (h : Within (Moves config { g with abandons := False }) p) : Within (Follows config g) p :=
  h.mono fun _ _ h => Moves.mono h id id False.elim (fun _ _ h => h) fun _ _ _ h => h

theorem createSession_follows (body : Json) (hopens : g.opens) :
    Within (Follows config g) (createSession config w body) := by
  refine (Within.liftResult _).bind fun driverId => (Within.liftResult _).bind fun vehicleId =>
    (follows_away (Apart.authorizeSession _ _ _).away).bind fun _ c => ?_
  have hmoves : ∀ {c'}, Moves config { Grounds.none with opens := True } c c' →
      Follows config g c c' :=
    fun h => Moves.mono h (fun _ => hopens) False.elim False.elim (fun _ _ => False.elim)
      fun _ _ _ => False.elim
  rw [ensures_bind]
  refine (openSession_moves driverId vehicleId trivial).mono ?_ fun _ _ => hmoves
  rintro ⟨sessionId, session⟩ c' hgranted
  rw [ensures_bind, ensures_tryCatch]
  refine (grantAuthority_moves hgranted).mono (fun _ _ => hmoves) ?_
  rintro _ c₁ ⟨hc₁, hover⟩
  unfold abandonSession
  rw [ensures_bind, ensures_update, ensures_throw]
  by_cases hwritten : GrantsWritten c₁.asked
  · obtain ⟨session, hfound, hstate⟩ := hover hwritten
    exact (hmoves hc₁).tail (.closed c₁ hfound hstate)
  · exact (hmoves hc₁).tail (.abandoned c₁ hwritten)

end

end MineTeleop.Signaling
