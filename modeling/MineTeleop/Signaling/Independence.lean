import MineTeleop.Signaling.Spaces

/-!
# Posts are judged by their own space

Proved here, for every configuration:

* `Request.serve_eq`, `Connection.receive_eq`: a post goes through its checks first, and what its
  sequence number makes of it comes last;
* `acceptPost_treated`: the four ways in which that can end;
* `spaces_independent`: in every run without a session whose key is ambiguous, every post is judged
  by the last message of its own space, and the numbers of a space increase;
* `ambiguousSession_mixes_spaces`: in a session whose key is ambiguous, a control command keeps a
  message of the vehicle out.
-/

namespace MineTeleop.Signaling

open Documents Programs Tables Runs

variable {config : SignalingServerConfig} {w : Circumstances} {g : Grounds} {c c' : Call}

/-! ## What comes before the judgement -/

section
variable (config : SignalingServerConfig) (w : Circumstances)

/-- The times at which a message has come, and the post that it is. -/
def receiveMessage (sessionId : String) (value : Json) (authenticatedActor : Option String) :
    Handler (ℤ × ℤ × Post) := do
  let receivedAtUtcMs ← nowMs w
  let receivedMonotonicMs ← monotonicNowMs w
  let post ← admitMessage config w sessionId value authenticatedActor
  pure (receivedAtUtcMs, receivedMonotonicMs, post)

def judge (received : ℤ × ℤ × Post) : Handler Answer := do
  let (receivedAtUtcMs, receivedMonotonicMs, post) := received
  let acknowledgement ←
    acceptPost w receivedAtUtcMs receivedMonotonicMs post ((← theService).verdict post)
  pure (.acknowledgement acknowledgement)

/-- The checks of `receivePost`. -/
def Connection.checkPost (connection : Connection) (message : Json) :
    Handler (ℤ × ℤ × Post) := do
  refuseIf (connection.controlReceiveOnly = true) (.invalidArgument
    "control-command receive WebSocket accepts delivery acknowledgements only")
  let _ ← connection.authenticate config w
  let type ← liftResult (protocolDocument (message.value "type" Json.getString ""))
  refuseIf (connection.sendOnly ∧ type ≠ "control_command") (.invalidArgument
    "send-only control WebSocket accepts control_command messages only")
  Signaling.receiveMessage config w connection.sessionId message (some connection.participant)

/-- What a connection checks of a message that is a post. -/
def Connection.receiveMessage (connection : Connection) (message : Json) :
    Handler (ℤ × ℤ × Post) := do
  whenever (connection.sendOnly = false) do
    let _ ← liftResult (protocolDocument (message.value "event" Json.getString ""))
  connection.checkPost config w message

instance (connection : Connection) (message : Json) : Decidable (connection.TakesPost message) :=
  inferInstanceAs (Decidable (_ ∨ _))

/-- The checks of an occasion that brings a post. -/
def Station.reception (station : Station) : Occasion → Option (Handler (ℤ × ℤ × Post))
  | (w, .request (.postMessage sessionId body)) => some do
    (Request.postMessage sessionId body).prepare config w
    receiveMessage config w sessionId body none
  | (w, .receive id message) =>
    (station.connections.lookup id).bind fun connection =>
      if connection.TakesPost message then some (connection.receiveMessage config w message)
      else none
  | _ => none

/-- The post that has passed its checks, and the call when it has. -/
def Station.judged (station : Station) (occasion : Occasion) : Option ((ℤ × ℤ × Post) × Call) :=
  (station.reception config occasion).bind fun checks =>
    match checks.exec (.start station.service) with
    | (.ok received, call) => some (received, call)
    | (.error _, _) => none

end

theorem enqueueSignalingMessage_eq (sessionId : String) (value : Json) (actor : Option String) :
    (do pure (Answer.acknowledgement
      (← enqueueSignalingMessage config w sessionId value actor)) : Handler Answer) =
      receiveMessage config w sessionId value actor >>= judge w := by
  simp only [enqueueSignalingMessage, receiveMessage, judge, bind_assoc, pure_bind]

theorem Request.serve_eq (sessionId : String) (body : Json) :
    (Request.postMessage sessionId body).serve config w =
      (do (Request.postMessage sessionId body).prepare config w
          receiveMessage config w sessionId body none) >>= judge w := by
  rw [bind_assoc, ← enqueueSignalingMessage_eq]
  rfl

theorem Connection.receivePost_eq (connection : Connection) (message : Json) :
    connection.receivePost config w message =
      connection.checkPost config w message >>= judge w := by
  simp only [receivePost, checkPost, bind_assoc]
  simp only [← enqueueSignalingMessage_eq]

theorem Connection.receive_eq {connection : Connection} {message : Json}
    (h : connection.TakesPost message) :
    connection.receive config w message =
      connection.receiveMessage config w message >>= judge w := by
  unfold Connection.receive Connection.receiveMessage
  rw [connection.receivePost_eq]
  cases hsend : connection.sendOnly with
  | true => rfl
  | false =>
    rw [if_neg (by simp), bind_assoc]
    cases hevent : message.value "event" Json.getString "" with
    | error what => rfl
    | ok event =>
      have hpost : event ≠ "signaling_delivery_ack" := by
        rintro rfl
        rcases h with h | h
        · exact absurd (hsend.symm.trans h) (by decide)
        · exact h hevent
      show (if event = "signaling_delivery_ack" then _ else _) = _
      rw [if_neg hpost]
      rfl

/-! ## Judged posts -/

theorem receiveMessage_admits (sessionId : String) (value : Json) (actor : Option String)
    (hmoves : Moves config g c c') :
    Ensures (receiveMessage config w sessionId value actor) c'
      (fun received c'' => Moves config g c c'' ∧ received.2.2.Admitted c''.service)
      fun _ c'' => Moves config g c c'' := by
  unfold receiveMessage monotonicNowMs steadyNow nowMs
  simp only [ensures_bind, ensures_look, ensures_pure]
  have hlooks : Moves config g c { c' with looks := c'.looks + 1 + 1 } :=
    hmoves.tail (.aside ⟨rfl, List.prefix_rfl⟩)
  exact (admitMessage_admits sessionId value actor).mono
    (fun _ _ h => ⟨hlooks.tail (.aside h.1.toAway), h.2.1⟩)
    fun _ _ h => hlooks.tail (.aside h.toAway)

theorem Connection.receiveMessage_admits (connection : Connection) (message : Json) :
    Ensures (connection.receiveMessage config w message) c
      (fun received c' => Moves config g c c' ∧ received.2.2.Admitted c'.service)
      fun _ c' => Moves config g c c' := by
  have hevent : Within (Moves config g) (whenever (connection.sendOnly = false) do
      let _ ← liftResult (protocolDocument (message.value "event" Json.getString ""))) :=
    .whenever ((Within.liftResult _).bind fun _ => .pure _)
  unfold Connection.receiveMessage
  refine (hevent c).bind fun _ c₁ h₁ => ?_
  unfold Connection.checkPost
  rw [ensures_bind]
  refine .refuseIf (fun _ => ?_) fun _ => h₁
  refine ((connection.authenticate_moves c₁).mono (fun _ _ => h₁.trans)
    fun _ _ => h₁.trans).bind fun _ c₂ h₂ => ?_
  rw [ensures_bind]
  refine .liftResult (fun _ _ => ?_) fun _ _ => h₂
  rw [ensures_bind]
  exact .refuseIf (fun _ => Signaling.receiveMessage_admits _ _ _ h₂) fun _ => h₂

/-- The checks of a post only end what has run out. -/
theorem reception_admits {station : Station} {occasion : Occasion}
    {checks : Handler (ℤ × ℤ × Post)} (h : station.reception config occasion = some checks) :
    Ensures checks c (fun received c' => Moves config g c c' ∧ received.2.2.Admitted c'.service)
      fun _ c' => Moves config g c c' := by
  obtain ⟨w, action⟩ := occasion
  cases action with
  | request request =>
    cases request with
    | postMessage sessionId body =>
      obtain rfl := Option.some.inj h
      rw [ensures_bind]
      have hprepare : Within (Moves config g) (nowMs w >>= cleanupExpiredConnections config w) :=
        (within_moves Aside.nowMs).bind fun _ => cleanup_moves _
      exact (hprepare c).mono (fun _ _ => receiveMessage_admits _ _ _) fun _ _ h => h
    | _ => cases h
  | receive id message =>
    obtain ⟨connection, -, h⟩ := Option.bind_eq_some_iff.mp h
    split at h
    · obtain rfl := Option.some.inj h
      exact connection.receiveMessage_admits message
    · cases h
  | _ => cases h

/-- A step that brings a post ends with its judgement. -/
theorem step_of_reception {station : Station} {occasion : Occasion}
    {checks : Handler (ℤ × ℤ × Post)} (h : station.reception config occasion = some checks) :
    station.step config occasion =
      (.of (fun answer => answer) ((checks >>= judge occasion.1).exec (.start station.service)),
        { station with
          service := ((checks >>= judge occasion.1).exec (.start station.service)).2.service }) := by
  obtain ⟨w, action⟩ := occasion
  cases action with
  | request request =>
    cases request with
    | postMessage sessionId body =>
      obtain rfl := Option.some.inj h
      unfold Station.step
      dsimp only
      rw [Request.serve_eq]
      rfl
    | _ => cases h
  | receive id message =>
    obtain ⟨connection, hconnection, h⟩ := Option.bind_eq_some_iff.mp h
    split at h
    · rename_i hpost
      obtain rfl := Option.some.inj h
      unfold Station.step
      dsimp only
      rw [hconnection]
      dsimp only
      rw [Connection.receive_eq hpost]
    · cases h
  | _ => cases h

theorem exists_reception {station : Station} {occasion : Occasion}
    (h : (occasion.2.grounds station).queues) :
    ∃ checks, station.reception config occasion = some checks := by
  obtain ⟨w, action⟩ := occasion
  cases action with
  | request request =>
    cases request with
    | postMessage sessionId body => exact ⟨_, rfl⟩
    | _ => exact absurd h id
  | receive id message =>
    unfold Action.grounds at h
    unfold Station.reception
    dsimp only at h ⊢
    cases hconnection : station.connections.lookup id with
    | none =>
      rw [hconnection] at h
      exact (h : False).elim
    | some connection =>
      rw [hconnection] at h
      have hpost : connection.TakesPost message := h
      exact ⟨_, if_pos hpost⟩
  | _ => exact absurd h id

theorem judged_cases {station : Station} {occasion : Occasion} {received : ℤ × ℤ × Post}
    (h : station.judged config occasion = some (received, c)) :
    ∃ checks, station.reception config occasion = some checks ∧
      checks.exec (.start station.service) = (.ok received, c) := by
  obtain ⟨checks, hchecks, h⟩ := Option.bind_eq_some_iff.mp h
  refine ⟨checks, hchecks, ?_⟩
  split at h
  · rename_i heq
    obtain ⟨rfl, rfl⟩ := Prod.mk.inj (Option.some.inj h)
    exact heq
  · cases h

theorem step_of_judged {station : Station} {occasion : Occasion} {received : ℤ × ℤ × Post}
    (h : station.judged config occasion = some (received, c)) :
    station.step config occasion =
      (.of (fun answer => answer) ((judge occasion.1 received).exec c),
        { station with service := ((judge occasion.1 received).exec c).2.service }) := by
  obtain ⟨checks, hchecks, hexec⟩ := judged_cases h
  rw [step_of_reception hchecks, exec_bind, hexec]

theorem judged_admitted {station : Station} {occasion : Occasion} {received : ℤ × ℤ × Post}
    (h : station.judged config occasion = some (received, c)) :
    Moves config .none (.start station.service) c ∧ received.2.2.Admitted c.service := by
  obtain ⟨checks, hchecks, hexec⟩ := judged_cases h
  have hensures := reception_admits (c := .start station.service) (g := .none) hchecks
  unfold Ensures at hensures
  rw [hexec] at hensures
  exact hensures

/-- Any other step accepts nothing. -/
theorem queued_of_not_judged {station : Station} {occasion : Occasion}
    (h : station.judged config occasion = none) :
    (station.step config occasion).1.queued = [] := by
  by_cases hqueues : (occasion.2.grounds station).queues
  · obtain ⟨checks, hchecks⟩ := @exists_reception config _ _ hqueues
    have hensures := reception_admits (c := .start station.service) (g := .none) hchecks
    unfold Station.judged at h
    rw [hchecks] at h
    dsimp only [Option.bind_some] at h
    rw [step_of_reception hchecks, exec_bind]
    unfold Ensures at hensures
    cases hexec : checks.exec (.start station.service) with
    | mk result c' =>
      rw [hexec] at h hensures
      cases result with
      | ok received => cases h
      | error e => exact Moves.queued_eq hensures id
  · obtain ⟨c', hfollows, -, -, hqueued⟩ := @step_did config station occasion
    rw [← hqueued]
    exact Moves.queued_eq hfollows hqueues

/-! ## Judgements -/

/-- No record of a retry has been refused. -/
def RetriesWritten (asked : List (AuditRecord × Bool)) : Prop :=
  ∀ entry ∈ asked, entry.1.event = "signaling_retry_acknowledged" → entry.2 = true

instance (asked : List (AuditRecord × Bool)) : Decidable (RetriesWritten asked) :=
  inferInstanceAs (Decidable (∀ entry ∈ asked, _))

/-- The post is answered with `answer`, and neither accepts nor changes anything. -/
structure AnsweredOnly (answer : Except Refusal Answer) (c : Call)
    (st : Step Station Occasion Outcome) : Prop where
  answer : st.output.answer = answer
  queued : st.output.queued = []
  after : st.after = { st.before with service := c.service }

/-- What becomes of a post after `last`, the last message that was accepted before. -/
structure TreatedAfter (last : Option Accepted) (post : Post) (c : Call)
    (st : Step Station Occasion Outcome) : Prop where
  older : ∀ a ∈ last, post.seq < a.post.seq →
    AnsweredOnly (.error (.conflict "signaling message sequence is older than the previous message"
      "signaling_sequence_older")) c st
  reused : ∀ a ∈ last, post.seq = a.post.seq → post.fingerprint ≠ a.post.fingerprint →
    AnsweredOnly (.error (.conflict
      "signaling message sequence was reused with different content"
      "signaling_sequence_reused")) c st
  retried : ∀ a ∈ last, post.seq = a.post.seq → post.fingerprint = a.post.fingerprint →
    AnsweredOnly (.ok (.acknowledgement { a.acknowledgement with duplicate := true })) c st
  accepted : (∀ a ∈ last, a.post.seq < post.seq) →
    ∃ a, st.output.queued = [a] ∧ a.post = post

theorem queueMessage_queued (receivedAtUtcMs receivedMonotonicMs : ℤ) (post : Post) :
    Ensures (queueMessage w receivedAtUtcMs receivedMonotonicMs post) c
      (fun _ c' => ∃ a : Accepted, c'.queued = c.queued ++ [a] ∧ a.post = post)
      fun _ c' => ∃ a : Accepted, c'.queued = c.queued ++ [a] ∧ a.post = post := by
  unfold queueMessage nowMs monotonicNowMs steadyNow
  simp only [ensures_bind, ensures_theService, ensures_update, ensures_look, ensures_pure,
    ensures_modify]
  refine .whenever (fun _ => ?_) fun _ => ⟨_, rfl, rfl⟩
  exact audit_cases (fun _ _ h => ⟨_, congrArg Traffic.queued h.traffic, rfl⟩)
    fun _ _ _ h => ⟨_, congrArg Traffic.queued h.traffic, rfl⟩

theorem acceptPost_retry (receivedAtUtcMs receivedMonotonicMs : ℤ) (post : Post)
    (acknowledgement : Acknowledgement) :
    Ensures (acceptPost w receivedAtUtcMs receivedMonotonicMs post (.retry acknowledgement)) c
      (fun x c' => x = acknowledgement ∧ c'.service = c.service ∧ c'.queued = c.queued)
      fun _ c' => ¬RetriesWritten c'.asked := by
  unfold acceptPost
  rw [ensures_bind, ensures_audit]
  split
  · exact ⟨rfl, rfl, rfl⟩
  · exact fun h => absurd (h _ (List.mem_append_right _ List.mem_cons_self) rfl) Bool.false_ne_true

/-- The step has ended as the call did. -/
structure EndedWith (result : Except Refusal Acknowledgement) (c : Call)
    (st : Step Station Occasion Outcome) : Prop where
  answer : st.output.answer = result.map .acknowledgement
  asked : st.output.asked = c.asked
  queued : st.output.queued = c.queued
  after : st.after = { st.before with service := c.service }

theorem observe_judged {station : Station} {occasion : Occasion} {a b : ℤ} {post : Post}
    (h : station.judged config occasion = some ((a, b, post), c))
    {Q : Acknowledgement → Call → Prop} {R : Refusal → Call → Prop}
    (haccept : Ensures (acceptPost occasion.1 a b post (c.service.verdict post)) c Q R) :
    (∃ x c', EndedWith (.ok x) c' ((Station.machine config).observe station occasion) ∧ Q x c') ∨
      ∃ e c', EndedWith (.error e) c' ((Station.machine config).observe station occasion) ∧
        R e c' := by
  have hjudge : (judge occasion.1 (a, b, post)).exec c =
      (acceptPost occasion.1 a b post (c.service.verdict post) >>= fun x =>
        pure (Answer.acknowledgement x)).exec c := rfl
  rw [exec_bind] at hjudge
  unfold Ensures at haccept
  unfold Machine.observe
  dsimp only [Station.machine]
  rw [step_of_judged h]
  cases hexec : (acceptPost occasion.1 a b post (c.service.verdict post)).exec c with
  | mk result c' =>
    rw [hexec] at haccept hjudge
    rw [hjudge]
    cases result with
    | ok x => exact .inl ⟨x, c', ⟨rfl, rfl, rfl, rfl⟩, haccept⟩
    | error e => exact .inr ⟨e, c', ⟨rfl, rfl, rfl, rfl⟩, haccept⟩

theorem verdict_eq {post : Post} {last : Option Accepted}
    (hmemory : c.service.lastAcceptedMessages.lookup post.sequenceKey =
      last.map Accepted.memory) :
    c.service.verdict post = judgeSequence (last.map Accepted.memory) post.seq post.fingerprint := by
  rw [SignalingService.verdict, hmemory]

section
variable {station : Station} {occasion : Occasion} {a b : ℤ} {post : Post}

theorem answeredOnly_of_refused
    (h : station.judged config occasion = some ((a, b, post), c)) (hqueued : c.queued = [])
    {e : Refusal} (hrefused : acceptPost occasion.1 a b post (c.service.verdict post) = throw e) :
    AnsweredOnly (.error e) c ((Station.machine config).observe station occasion) := by
  have hthrown : Ensures (acceptPost occasion.1 a b post (c.service.verdict post)) c
      (fun _ _ => False) fun e' c' => e' = e ∧ c' = c := by
    rw [hrefused]
    exact ⟨rfl, rfl⟩
  obtain ⟨-, -, -, hfalse⟩ | ⟨_, _, hended, rfl, rfl⟩ := observe_judged h hthrown
  · exact hfalse.elim
  · exact ⟨hended.answer, hended.queued.trans hqueued, hended.after⟩

/-- A judged post is treated after the message that is remembered under its key. -/
theorem judged_treatedAfter
    (h : station.judged config occasion = some ((a, b, post), c)) (hqueued : c.queued = [])
    {last : Option Accepted}
    (hmemory : c.service.lastAcceptedMessages.lookup post.sequenceKey = last.map Accepted.memory)
    (hwritten : RetriesWritten ((Station.machine config).observe station occasion).output.asked) :
    TreatedAfter last post c ((Station.machine config).observe station occasion) := by
  have hverdict := verdict_eq hmemory
  constructor
  · rintro x rfl hlt
    have hold : c.service.verdict post = .older := by
      rw [hverdict]
      exact if_pos hlt
    exact answeredOnly_of_refused h hqueued (by rw [hold]; rfl)
  · rintro x rfl heq hne
    have hreused : c.service.verdict post = .reused := by
      rw [hverdict]
      exact (if_neg heq.not_lt).trans ((if_pos heq).trans (if_pos hne))
    exact answeredOnly_of_refused h hqueued (by rw [hreused]; rfl)
  · rintro x rfl heq hsame
    have hretry : c.service.verdict post =
        .retry { x.acknowledgement with duplicate := true } := by
      rw [hverdict]
      exact (if_neg heq.not_lt).trans ((if_pos heq).trans (if_neg (not_not.mpr hsame)))
    have haccept := acceptPost_retry (w := occasion.1) (c := c) a b post
      { x.acknowledgement with duplicate := true }
    rw [← hretry] at haccept
    obtain ⟨_, _, hended, rfl, hservice, hsame⟩ | ⟨_, _, hended, hrefused⟩ :=
      observe_judged h haccept
    · refine ⟨hended.answer, hended.queued.trans (hsame.trans hqueued), ?_⟩
      rw [hended.after, hservice]
    · exact absurd (hended.asked ▸ hwritten) hrefused
  · intro hless
    have hnext : c.service.verdict post = .next := by
      rw [hverdict]
      cases last with
      | none => rfl
      | some x =>
        have hlt := hless x rfl
        exact (if_neg hlt.not_gt).trans (if_neg hlt.ne')
    have haccept := queueMessage_queued (w := occasion.1) (c := c) a b post
    obtain ⟨_, _, hended, x, hx, hpost⟩ | ⟨_, _, hended, x, hx, hpost⟩ :=
      observe_judged h (by rw [hnext]; exact haccept)
    all_goals
      refine ⟨x, hended.queued.trans (hx.trans ?_), hpost⟩
      rw [hqueued, List.nil_append]

end

/-! ## Runs -/

/-- No session has an ambiguous key. -/
def SignalingService.Unambiguous (service : SignalingService) : Prop :=
  ∀ sessionId ∈ service.sessions.keys, ∀ session ∈ service.sessions.lookup sessionId,
    ¬session.Ambiguous

instance (service : SignalingService) : Decidable service.Unambiguous :=
  inferInstanceAs (Decidable (∀ sessionId ∈ service.sessions.keys,
    ∀ session ∈ service.sessions.lookup sessionId, _))

/-- The numbers of every space increase. -/
def Increasing (accepted : List Accepted) : Prop :=
  accepted.Pairwise fun a b => a.post.space = b.post.space → a.post.seq < b.post.seq

/-- A post is treated after the last message of its own space, and accepted just where its number
is greater than all before it in the space; what is no post is not accepted at all. -/
def JudgedBySpace (config : SignalingServerConfig) (st : Step Station Occasion Outcome)
    (past : History Station Occasion Outcome) : Prop :=
  match st.before.judged config st.event with
  | none => st.output.queued = []
  | some ((_, _, post), c) =>
    TreatedAfter (lastIn (acceptedOf past) post.space) post c st ∧
      (st.output.queued ≠ [] ↔
        ∀ a ∈ acceptedOf past, a.post.space = post.space → a.post.seq < post.seq)

theorem Increasing.le_lastIn {accepted : List Accepted} (h : Increasing accepted) {a : Accepted}
    {space : Space} (ha : a ∈ accepted) (hspace : a.post.space = space) :
    ∃ x ∈ lastIn accepted space, x.post.space = space ∧ a.post.seq ≤ x.post.seq := by
  have hmem : a ∈ accepted.filter fun a => a.post.space = space :=
    List.mem_filter.mpr ⟨ha, decide_eq_true hspace⟩
  have hpairs := h.filter fun a => a.post.space = space
  have hne := List.ne_nil_of_mem hmem
  have hlast := of_decide_eq_true (List.mem_filter.mp (List.getLast_mem hne)).2
  refine ⟨_, List.getLast?_eq_some_getLast hne, hlast, ?_⟩
  rw [← List.dropLast_append_getLast hne] at hmem hpairs
  rcases List.mem_append.mp hmem with hbefore | hself
  · exact ((List.pairwise_append.mp hpairs).2.2 a hbefore _ List.mem_cons_self
      (hspace.trans hlast.symm)).le
  · rw [List.mem_singleton.mp hself]

theorem mem_of_lastIn {accepted : List Accepted} {space : Space} {x : Accepted}
    (h : x ∈ lastIn accepted space) : x ∈ accepted ∧ x.post.space = space := by
  have hmem := List.mem_filter.mp (List.mem_of_getLast? h)
  exact ⟨hmem.1, of_decide_eq_true hmem.2⟩

theorem TreatedAfter.accepted_iff {accepted : List Accepted} {post : Post}
    {st : Step Station Occasion Outcome} (hincreasing : Increasing accepted)
    (h : TreatedAfter (lastIn accepted post.space) post c st) :
    st.output.queued ≠ [] ↔
      ∀ a ∈ accepted, a.post.space = post.space → a.post.seq < post.seq := by
  constructor
  · intro hqueued a ha hspace
    obtain ⟨x, hx, -, hle⟩ := hincreasing.le_lastIn ha hspace
    by_contra hnot
    rcases (not_lt.mp hnot |>.trans hle).lt_or_eq with hlt | heq
    · exact hqueued (h.older x hx hlt).queued
    · by_cases hsame : post.fingerprint = x.post.fingerprint
      · exact hqueued (h.retried x hx heq hsame).queued
      · exact hqueued (h.reused x hx heq hsame).queued
  · intro hless
    obtain ⟨a, hqueued, -⟩ := h.accepted fun x hx =>
      hless x (mem_of_lastIn hx).1 (mem_of_lastIn hx).2
    simp [hqueued]

theorem Increasing.after {accepted : List Accepted} {post : Post}
    {st : Step Station Occasion Outcome} (h : Increasing accepted)
    (htreated : TreatedAfter (lastIn accepted post.space) post c st) :
    Increasing (accepted ++ st.output.queued) := by
  by_cases hqueued : st.output.queued = []
  · rwa [hqueued, List.append_nil]
  · have hless := (htreated.accepted_iff h).mp hqueued
    obtain ⟨x, hx, hpost⟩ := htreated.accepted fun y hy =>
      hless y (mem_of_lastIn hy).1 (mem_of_lastIn hy).2
    rw [hx]
    refine List.pairwise_append.mpr ⟨h, List.pairwise_singleton _ _, fun y hy z hz => ?_⟩
    rw [List.mem_singleton.mp hz, hpost]
    exact hless y hy

/-- The session of an admitted post is one of those before the call. -/
theorem judged_unambiguous {station : Station} {post : Post}
    (hmoves : Moves config .none (.start station.service) c)
    (hunambiguous : station.service.Unambiguous) {session : Session}
    (hfound : c.service.sessions.lookup post.sessionId = some session) : ¬session.Ambiguous := by
  obtain ⟨earlier, hearlier, hdriver, hvehicle⟩ := Moves.sameParties hmoves id _ _ hfound
  unfold Session.Ambiguous
  rw [hdriver, hvehicle]
  exact hunambiguous _ (Table.mem_keys_of_lookup hearlier) earlier hearlier

theorem judged_by_space {past : History Station Occasion Outcome} {station : Station}
    (hrun : Run (Station.machine config) past station) (occasion : Occasion)
    (hincreasing : Increasing (acceptedOf past)) (hunambiguous : station.service.Unambiguous)
    (hwritten : RetriesWritten ((Station.machine config).observe station occasion).output.asked) :
    JudgedBySpace config ((Station.machine config).observe station occasion) past ∧
      Increasing
        (acceptedOf ((Station.machine config).observe station occasion :: past)) := by
  cases hjudged : station.judged config occasion with
  | none =>
    have hqueued := queued_of_not_judged hjudged
    refine ⟨?_, ?_⟩
    · unfold JudgedBySpace
      rw [show ((Station.machine config).observe station occasion).before.judged config
        ((Station.machine config).observe station occasion).event = none from hjudged]
      exact hqueued
    · show Increasing (acceptedOf past ++ (station.step config occasion).1.queued)
      rwa [hqueued, List.append_nil]
  | some judged =>
    obtain ⟨⟨a, b, post⟩, c⟩ := judged
    obtain ⟨hmoves, hadmitted⟩ := judged_admitted hjudged
    have hqueued : c.queued = [] := Moves.queued_eq hmoves id
    obtain ⟨session, hfound, hstate, hsender, -, hcontrol⟩ := hadmitted.active
    have hmemory := (Moves.remembered hmoves (run_remembered hrun)).memory post session hfound
      (by rw [hstate]; exact fun hover => by rcases hover with h | h <;> cases h)
      (judged_unambiguous hmoves hunambiguous hfound) ⟨hsender, fun h => (hcontrol h).1⟩
    rw [hqueued, List.append_nil] at hmemory
    have htreated := judged_treatedAfter hjudged hqueued hmemory hwritten
    have haccepted := htreated.accepted_iff hincreasing
    refine ⟨?_, ?_⟩
    · unfold JudgedBySpace
      rw [show ((Station.machine config).observe station occasion).before.judged config
        ((Station.machine config).observe station occasion).event = _ from hjudged]
      exact ⟨htreated, haccepted⟩
    · exact hincreasing.after htreated

theorem spaces_independent {history : History Station Occasion Outcome} {station : Station}
    (hrun : Run (Station.machine config) history station)
    (hsteps : Steps (fun st => st.before.service.Unambiguous ∧ RetriesWritten st.output.asked)
      history) :
    Always (JudgedBySpace config) history ∧ ∀ space,
      (((acceptedOf history).filter fun a => a.post.space = space).map (·.post.seq)).Pairwise
        (· < ·) := by
  have hboth : Always (JudgedBySpace config) history ∧ Increasing (acceptedOf history) := by
    induction hrun with
    | init => exact ⟨trivial, List.Pairwise.nil⟩
    | step occasion hrun ih =>
      obtain ⟨hlaw, hincreasing⟩ := ih hsteps.2
      obtain ⟨hjudged, hincreasing'⟩ :=
        judged_by_space hrun occasion hincreasing hsteps.1.1 hsteps.1.2
      exact ⟨⟨hjudged, hlaw⟩, hincreasing'⟩
  refine ⟨hboth.1, fun space => List.pairwise_map.mpr ?_⟩
  refine (hboth.2.filter _).imp_of_mem fun ha hb hless => hless ?_
  exact (of_decide_eq_true (List.mem_filter.mp ha).2).trans
    (of_decide_eq_true (List.mem_filter.mp hb).2).symm

/-- The first message of a space is accepted. -/
theorem JudgedBySpace.first_accepted {st : Step Station Occasion Outcome}
    {past : History Station Occasion Outcome} (h : JudgedBySpace config st past) (space : Space)
    (hjudged : (st.before.judged config st.event).map (·.1.2.2.space) = some space)
    (hfirst : ∀ a ∈ acceptedOf past, a.post.space ≠ space) : st.output.queued ≠ [] := by
  obtain ⟨⟨⟨a, b, post⟩, c⟩, hpost, rfl⟩ := Option.map_eq_some_iff.mp hjudged
  unfold JudgedBySpace at h
  rw [hpost] at h
  exact h.2.mpr fun x hx hspace => absurd hspace (hfirst x hx)

/-! ### Examples -/

def exampleMetadata (vehicleId : String) (seq : ℤ) : List (String × Json) :=
  [("protocol_version", .integer 1), ("vehicle_id", .string vehicleId),
    ("driver_id", .string "driver"), ("session_id", .string "session-000001"),
    ("seq", .integer seq), ("sent_at_utc_ms", .integer 1000)]

/-- A message of the driver that the vehicle is to get. -/
def exampleTelemetry (vehicleId : String) (seq : ℤ) : Request :=
  .postMessage "session-000001" (.object ([("sender", .string "driver"),
    ("recipient", .string vehicleId), ("type", .string "telemetry"),
    ("token", .string "driver-token-one")] ++ exampleMetadata vehicleId seq))

theorem spaces_independent_retry :
    let run := (Station.machine exampleConfig).play
      [(smoothly 1000 "one", .request exampleLogin), (smoothly 1001 "two", .request exampleOnline),
        (smoothly 1002 "three", .request exampleCreate),
        (smoothly 1003 "four", .request (exampleTelemetry "truck" 1)),
        (smoothly 1004 "five", .request (exampleTelemetry "truck" 1)),
        (smoothly 1005 "six", .request (exampleTelemetry "truck" 2))]
    Always (JudgedBySpace exampleConfig) run.1 ∧ ∀ space,
      (((acceptedOf run.1).filter fun a => a.post.space = space).map (·.post.seq)).Pairwise
        (· < ·) :=
  spaces_independent (.play _ _) (by decide +kernel)

/-- The vehicle is called like the control channel of the driver. -/
def ambiguousConfig : SignalingServerConfig :=
  { exampleConfig with
    deviceTokens := AList.singleton "driver:native_control" "device"
    driverVehiclePermissions := AList.singleton "driver" ["driver:native_control"] }

def ambiguousRun : List Occasion :=
  let vehicle := "driver:native_control"
  let payload := Json.object (exampleMetadata vehicle 5 ++ [("type", .string "control_command"),
    ("gear", .string "N"), ("steering", .integer 0), ("throttle", .integer 0),
    ("brake", .integer 1), ("control_token", .string "control-token-three"),
    ("intent_seq", .integer 1), ("intent_fresh", .boolean true)])
  [(smoothly 1000 "one", .request exampleLogin),
    (smoothly 1001 "two", .request (.vehicleOnline (texts [("vehicle_id", vehicle),
      ("device_token", "device"), ("connection_id", "link")]))),
    (smoothly 1002 "three", .request (.createSession (texts [("driver_id", "driver"),
      ("vehicle_id", vehicle), ("token", "driver-token-one")]))),
    (smoothly 1003 "four", .request (.postMessage "session-000001" (.object
      ([("sender", .string "driver"), ("recipient", .string vehicle),
        ("type", .string "control_command"), ("token", .string "driver-token-one"),
        ("payload", payload)] ++ exampleMetadata vehicle 5))))]

def ambiguousPost : Occasion :=
  (smoothly 1004 "five", .request (.postMessage "session-000001" (.object
    ([("sender", .string "driver:native_control"), ("recipient", .string "driver"),
      ("type", .string "telemetry"), ("device_token", .string "device"),
      ("connection_generation", .integer 2)] ++ exampleMetadata "driver:native_control" 1))))

/-- The first message of the vehicle is refused as older than a command of the driver. -/
theorem ambiguousSession_mixes_spaces :
    ¬∀ (config : SignalingServerConfig) (history : History Station Occasion Outcome)
      (station : Station), Run (Station.machine config) history station →
      Always (JudgedBySpace config) history := by
  intro h
  have hlaw := (h ambiguousConfig _ _ ((Run.play _ ambiguousRun).extend ambiguousPost)).1
  exact hlaw.first_accepted ⟨"session-000001", "driver:native_control", false⟩
    (by decide +kernel) (by decide +kernel) (by decide +kernel)

end MineTeleop.Signaling
