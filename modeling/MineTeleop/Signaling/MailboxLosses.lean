import MineTeleop.Signaling.Borne
import MineTeleop.Signaling.MailboxOrder
import MineTeleop.Signaling.Turns

/-!
# How messages leave a mailbox

An ordinary message that has been queued stays in its mailbox until it is too old, its session is
over, or it is taken: by a poll that hands it out, or by an acknowledgement of its number.

Proved here, for every configuration and every circumstances:

* `closeSession_sheds`, `takeSignalingMessages_gives`, `queueMessage_sheds`: what the parts of the
  handlers leave in a mailbox;
* `serve_gives`: a request takes only what its answer hands out;
* `pending_gives`, `receive_gives`: a turn of a connection takes nothing, and an acknowledgement
  only what it confirms.
-/

namespace MineTeleop.Signaling

open Documents Programs Tables

variable {config : SignalingServerConfig} {w : Circumstances} {c c' c'' : Call} {α : Type}
  {box : Mailbox} {lost : Message → Prop}

/-- The message waits, or there is a reason why it does not. -/
def Accounted (box : Mailbox) (lost : Message → Prop) (c : Call) (m : Message) : Prop :=
  m ∈ c.service.mail box ∨ c.service.Over box.sessionId ∨ lost m

/-- What waited, and what has been accepted since, is accounted for. -/
structure Sheds (box : Mailbox) (lost : Message → Prop) (c c' : Call) : Prop where
  carries : Carries box c c'
  waits : Sound c.service box → ∀ m ∈ c.service.mail box, Accounted box lost c' m
  accepts : Sound c.service box → ∀ a ∈ c'.queued, a ∈ c.queued ∨
    (a.post.recipientKey = box.key → ¬a.post.Control → Accounted box lost c' a.message)

theorem Accounted.after {m : Message} (h : Sheds box lost c c')
    (hsound : Sound c.service box) (hm : Accounted box lost c m) :
    Accounted box lost c' m := by
  rcases hm with hm | hover | hlost
  · exact h.waits hsound m hm
  · exact .inr (.inl ((h.carries hsound).2.ended hover))
  · exact .inr (.inr hlost)

instance : Std.Refl (Sheds box lost) where
  refl c := ⟨Std.Refl.refl c, fun _ _ hm => .inl hm, fun _ _ ha => .inl ha⟩

instance : IsTrans Call (Sheds box lost) where
  trans c c' c'' h h' := by
    refine ⟨IsTrans.trans _ _ _ h.carries h'.carries, ?_, ?_⟩
    · intro hsound m hm
      exact (h.waits hsound m hm).after h' (h.carries hsound).1
    · intro hsound a ha
      have hsound' := (h.carries hsound).1
      rcases h'.accepts hsound' a ha with ha' | haccounted
      · refine (h.accepts hsound a ha').imp_right fun haccounted hkey hcontrol => ?_
        exact (haccounted hkey hcontrol).after h' hsound'
      · exact .inr haccounted

theorem Accounted.mono {lost' : Message → Prop} (hlost : ∀ m, lost m → lost' m) {m : Message}
    (hm : Accounted box lost c m) : Accounted box lost' c m :=
  hm.imp_right (Or.imp_right (hlost m))

theorem Sheds.mono {lost' : Message → Prop} (hlost : ∀ m, lost m → lost' m)
    (h : Sheds box lost c c') : Sheds box lost' c c' where
  carries := h.carries
  waits hsound m hm := (h.waits hsound m hm).mono hlost
  accepts hsound a ha := (h.accepts hsound a ha).imp_right fun haccounted hkey hcontrol =>
    (haccounted hkey hcontrol).mono hlost

/-- Nothing is lost. -/
def Nothing (_ : Message) : Prop := False

theorem Sheds.behind (h : Sheds box Nothing c c') (h' : Sheds box lost c' c'') :
    Sheds box lost c c'' :=
  IsTrans.trans _ _ _ (h.mono fun _ => False.elim) h'

/-! ## Calls that touch no message -/

/-- Neither the queues nor the accepted messages are touched. -/
structure Untouched (c c' : Call) : Prop where
  messages : c'.service.messages = c.service.messages
  queued : c'.queued = c.queued

instance : Std.Refl Untouched := ⟨fun _ => ⟨rfl, rfl⟩⟩

instance : IsTrans Call Untouched :=
  ⟨fun _ _ _ h h' => ⟨h'.messages.trans h.messages, h'.queued.trans h.queued⟩⟩

theorem untouched_aside {p : Handler α} (h : Within Aside p) : Within Untouched p :=
  h.mono fun _ _ h => ⟨congrArg Traffic.messages h.traffic, congrArg Traffic.queued h.traffic⟩

theorem untouched_update {f : SignalingService → SignalingService}
    (h : ∀ service, (f service).messages = service.messages) : Within Untouched (update f) :=
  fun _ => ⟨h _, rfl⟩

theorem Untouched.mail (h : Untouched c c') (box : Mailbox) :
    c'.service.mail box = c.service.mail box := by
  rw [SignalingService.mail, SignalingService.mail, h.messages]

theorem Untouched.sheds (h : Untouched c c') (hcarries : Carries box c c') :
    Sheds box lost c c' := by
  refine ⟨hcarries, ?_, ?_⟩
  · intro _ m hm
    exact .inl (h.mail box ▸ hm)
  · intro _ a ha
    exact .inl (h.queued ▸ ha)

theorem sheds_of_untouched {p : Handler α} (hcarries : Within (Carries box) p)
    (h : Within Untouched p) : Within (Sheds box lost) p := fun c =>
  ((hcarries c).and (h c)).mono (fun _ _ h => h.2.sheds h.1) fun _ _ h => h.2.sheds h.1

theorem carries_moves {p : Handler α} (g : Grounds) (h : Within (Moves config g) p) :
    Within (Carries box) p :=
  h.mono fun _ _ h => Moves.carries h

theorem carries_aside {p : Handler α} (h : Within Aside p) : Within (Carries box) p :=
  h.mono fun _ _ h => carries_traffic h.traffic

theorem sheds_aside {p : Handler α} (h : Within Aside p) : Within (Sheds box lost) p :=
  sheds_of_untouched (carries_aside h) (untouched_aside h)

theorem sheds_of_traffic (h : c'.traffic = c.traffic) : Sheds box lost c c' :=
  Untouched.sheds ⟨congrArg Traffic.messages h, congrArg Traffic.queued h⟩ (carries_traffic h)

theorem sheds_apart {p : Handler α} (h : Within Apart p) : Within (Sheds box lost) p :=
  h.mono fun _ _ h => sheds_of_traffic h.traffic

theorem sheds_update {f : SignalingService → SignalingService}
    (h : ∀ c : Call, ({ c with service := f c.service } : Call).traffic = c.traffic) :
    Within (Sheds box lost) (update f) :=
  fun c => sheds_of_traffic (h c)

/-! ## Closing -/

theorem transitionSession_untouched (sessionId : String) (next : SessionState) (reason : String) :
    Within Untouched (transitionSession w sessionId next reason) := by
  refine (untouched_aside Aside.theService).bind fun s => ?_
  cases s.sessions.lookup sessionId with
  | none => exact .pure _
  | some session =>
    exact .whenever ((Within.refuseIf _ _).bind fun _ =>
      .bind (untouched_update fun _ => rfl) fun _ => untouched_aside (Aside.audit _))

theorem transitionSession_carries (sessionId : String) (next : SessionState) (reason : String) :
    Within (Carries box) (transitionSession w sessionId next reason) := by
  intro c
  have hrefl : Carries box c c := Std.Refl.refl c
  unfold transitionSession
  rw [ensures_bind, ensures_theService]
  cases hfound : c.service.sessions.lookup sessionId with
  | none => exact hrefl
  | some session =>
    refine .whenever (fun _ => ?_) fun _ => hrefl
    rw [ensures_bind]
    refine .refuseIf (fun hallowed => ?_) fun _ => hrefl
    rw [ensures_bind, ensures_update]
    have hadjusted : Carries box c { c with
        service := c.service.adjustSession sessionId ({ · with state := next }) } := by
      refine carries_adjust c sessionId fun s hs => ?_
      obtain rfl := Option.some.inj (hs.symm.trans hfound)
      refine ⟨fun _ => (not_not.mp hallowed).begun, fun hover => ?_⟩
      by_cases hclosed : next = .closed
      · exact .inr hclosed
      · exact absurd (not_not.mp hallowed) (hover.not_allowed hclosed)
    have haudit : Within (Carries box) (audit w (transitionRecord sessionId session next reason)) :=
      carries_aside (Aside.audit _)
    exact (haudit _).mono (fun _ _ h => IsTrans.trans _ _ _ hadjusted h)
      fun _ _ h => IsTrans.trans _ _ _ hadjusted h

/-- Wherever the last transitions of a session are interrupted, it is over. -/
theorem lastTransitions_over {sessionId reason : String} {session : Session}
    (hfound : c.service.sessions.lookup sessionId = some session)
    (hstate : session.state.Allowed .stopping ∨ session.state = .stopping) :
    Ensures (do
        whenever (session.state ≠ .stopping) (transitionSession w sessionId .stopping reason)
        transitionSession w sessionId .closed reason) c
      (fun _ c' => c'.service.Over sessionId) fun _ c' => c'.service.Over sessionId := by
  have hlast : ∀ {c' : Call} {session' : Session},
      c'.service.sessions.lookup sessionId = some session' → session'.state = .stopping →
      Ensures (transitionSession w sessionId .closed reason) c'
        (fun _ c'' => c''.service.Over sessionId) fun _ c'' => c''.service.Over sessionId := by
    intro c' session' hfound' hstopping
    have hover := over_of_lookup hfound' (.inl hstopping)
    refine transitionSession_cases hfound' (fun _ => hover) (fun _ _ => hover) fun _ => ?_
    have hclosed := over_of_lookup (lookup_setState .closed hfound') (.inr rfl)
    rw [ensures_audit]
    split <;> exact hclosed
  rw [ensures_bind]
  refine .whenever (fun hopen => ?_) fun hopen => hlast hfound (not_not.mp hopen)
  refine transitionSession_cases hfound (fun h => absurd h hopen)
    (fun h => absurd (hstate.resolve_right hopen) h) fun _ => ?_
  have hstopped := lookup_setState .stopping hfound
  rw [ensures_audit]
  split
  · exact hlast hstopped rfl
  · exact over_of_lookup hstopped (.inl rfl)

theorem SessionState.Begun.closes {state : SessionState} (h : state.Begun)
    (hopen : state ≠ .closed) : state.Allowed .stopping ∨ state = .stopping := by
  revert h hopen
  cases state <;> simp [SessionState.Begun, SessionState.Allowed]

/-- Closing a session leaves the queues of all others alone. -/
theorem closeSession_waits (box : Mailbox) (sessionId reason : String) (c : Call) :
    Ensures (closeSession w sessionId reason) c
      (fun _ c' => c'.queued = c.queued ∧ (Sound c.service box → ∀ m ∈ c.service.mail box,
        m ∈ c'.service.mail box ∨ c'.service.Over box.sessionId))
      fun _ c' => c'.queued = c.queued ∧ (Sound c.service box → ∀ m ∈ c.service.mail box,
        m ∈ c'.service.mail box ∨ c'.service.Over box.sessionId) := by
  unfold closeSession
  rw [ensures_bind, ensures_theService]
  cases hfound : c.service.sessions.lookup sessionId with
  | none => exact ⟨rfl, fun _ _ => .inl⟩
  | some session =>
    refine .whenever (fun hopen => ?_) fun _ => ⟨rfl, fun _ _ => .inl⟩
    rw [ensures_bind, ensures_update, ensures_bind, ensures_update]
    change Ensures _ { c with service := c.service.empty sessionId session } _ _
    have hrest : Within Untouched (do
        whenever (session.state ≠ .stopping) (transitionSession w sessionId .stopping reason)
        transitionSession w sessionId .closed reason) :=
      (Within.whenever (transitionSession_untouched _ _ _)).bind fun _ =>
        transitionSession_untouched _ _ _
    have hempty := lookup_empty hfound
    by_cases hbegun : session.state.Begun
    · have hover := @lastTransitions_over w { c with service := c.service.empty sessionId session }
        sessionId reason _ hempty (hbegun.closes hopen)
      refine ((hrest _).and hover).mono ?_ ?_
      all_goals
        rintro _ c' ⟨huntouched, hover⟩
        refine ⟨huntouched.queued, fun hsound m hm => ?_⟩
        rcases forget_cases box c.service session (hsound.numbered.named hfound) with
          halike | ⟨rfl, -⟩
        · exact .inl ((huntouched.mail box).trans halike.mail ▸ hm)
        · exact .inr hover
    · refine (hrest _).mono ?_ ?_
      all_goals
        rintro _ c' huntouched
        refine ⟨huntouched.queued, fun hsound m hm => ?_⟩
        rcases forget_cases box c.service session (hsound.numbered.named hfound) with
          halike | ⟨rfl, -⟩
        · exact .inl ((huntouched.mail box).trans halike.mail ▸ hm)
        · have hbare := hsound.unborn fun s hs => by
            obtain rfl := Option.some.inj (hs.symm.trans hfound)
            exact hbegun
          exact absurd (hbare.mail ▸ hm) List.not_mem_nil

theorem closeSession_sheds (config : SignalingServerConfig) (sessionId reason : String) :
    Within (Sheds box lost) (closeSession w sessionId reason) := by
  intro c
  have hmoves : Within (Moves config .none) (closeSession w sessionId reason) :=
    closeSession_moves sessionId reason
  have hcarries : Within (Carries box) (closeSession w sessionId reason) :=
    carries_moves .none hmoves
  refine ((hcarries c).and (closeSession_waits box sessionId reason c)).mono ?_ ?_
  all_goals
    rintro _ c' ⟨hcarries, hqueued, hwaits⟩
    refine ⟨hcarries, fun hsound m hm => ?_, fun _ a ha => .inl (hqueued ▸ ha)⟩
    exact (hwaits hsound m hm).imp_right .inl

theorem borne_sheds (config : SignalingServerConfig) : Borne w (Sheds box lost) where
  aside _ _ h := sheds_of_traffic h.traffic
  updates _ htraffic _ := sheds_update htraffic
  closes := closeSession_sheds config
  approvals := sheds_apart Apart.cleanupMobileApprovals

/-! ## Taking -/

theorem mem_mail_kept {service : SignalingService} {keeps : Message → Bool} {key : String}
    {m : Message} (hm : m ∈ service.mail box) (hkeeps : key = box.key → keeps m = true) :
    m ∈ ((if ((service.messages.lookup key).getD []).filter keeps = []
        then service.messages.erase key
        else service.messages.insert key (((service.messages.lookup key).getD []).filter
          keeps)).lookup box.key).getD [] := by
  rw [SignalingService.lookup_kept]
  split
  · rename_i hkey
    have hkept : m ∈ ((service.messages.lookup key).getD []).filter keeps :=
      List.mem_filter.mpr ⟨hkey ▸ hm, hkeeps hkey.symm⟩
    rw [if_neg (List.ne_nil_of_mem hkept)]
    exact hkept
  · exact hm

theorem sheds_expired (config : SignalingServerConfig) (c : Call) (key : String)
    (monotonicMs : ℤ) (hlost : ∀ m : Message,
      config.signalingMessageTtlMs ≤ monotonicMs - m.queuedAtMonotonicMs → lost m) :
    Sheds box lost c { c with
      service := c.service.expireMessages config key monotonicMs
      looks := c.looks + 1 } := by
  have hexpired : Move config .none { c with looks := c.looks + 1 } { c with
      service := c.service.expireMessages config key monotonicMs
      looks := c.looks + 1 } := .expired _ key monotonicMs
  have hlooked : Move config .none c { c with looks := c.looks + 1 } :=
    .aside ⟨rfl, List.prefix_rfl⟩
  refine ⟨Moves.carries (.tail (.single hlooked) hexpired), ?_, fun _ _ ha => .inl ha⟩
  intro _ m hm
  by_cases hfresh : monotonicMs - m.queuedAtMonotonicMs < config.signalingMessageTtlMs
  · exact .inl (mem_mail_kept hm fun _ => decide_eq_true hfresh)
  · exact .inr (.inr (hlost m (not_lt.mp hfresh)))

theorem sheds_consumed (config : SignalingServerConfig) (c : Call) (key requested : String)
    (hlost : key = box.key → ∀ m ∈ c.service.mail box, Requested requested m.type → lost m) :
    Sheds box lost c { c with service := c.service.consumeMessages key requested } := by
  have hmove : Move config { Grounds.none with consumes := fun _ _ => True } c
      { c with service := c.service.consumeMessages key requested } := .consumed c trivial
  refine ⟨hmove.carries, ?_, fun _ _ ha => .inl ha⟩
  intro _ m hm
  by_cases htaken : key = box.key ∧ Requested requested m.type
  · exact .inr (.inr (hlost htaken.1 m hm htaken.2))
  · exact .inl (mem_mail_kept hm fun hkey => decide_eq_true fun h => htaken ⟨hkey, h⟩)

theorem sheds_acknowledged (config : SignalingServerConfig) (c : Call) (key : String)
    (deliveryCursor : ℕ) (controlOnly : Bool)
    (hlost : key = box.key → controlOnly = false → ∀ m : Message,
      m.deliveryCursor ≤ deliveryCursor → lost m) :
    Sheds box lost c
      { c with service := c.service.acknowledge key deliveryCursor controlOnly } := by
  have hmove : Move config { Grounds.none with acknowledges := fun _ _ _ => True } c
      { c with service := c.service.acknowledge key deliveryCursor controlOnly } :=
    .acknowledged c trivial
  refine ⟨hmove.carries, ?_, fun _ _ ha => .inl ha⟩
  intro _ m hm
  cases controlOnly with
  | true => exact .inl hm
  | false =>
    by_cases htaken : key = box.key ∧ m.deliveryCursor ≤ deliveryCursor
    · exact .inr (.inr (hlost htaken.1 rfl m htaken.2))
    · exact .inl (mem_mail_kept hm fun hkey =>
        decide_eq_true (not_le.mp fun h => htaken ⟨hkey, h⟩))

/-- What a participant finds when it asks for its messages. -/
def SignalingService.pending (service : SignalingService) (key requested : String) :
    List Message :=
  (service.pendingControl key requested ++ service.pendingOrdinary key requested).mergeSort
    fun left right => left.deliveryCursor ≤ right.deliveryCursor

theorem mem_pending {service : SignalingService} {key requested : String} {m : Message}
    (hkey : key = box.key) (hm : m ∈ service.mail box) (htype : Requested requested m.type) :
    m ∈ service.pending key requested := by
  unfold SignalingService.pending
  rw [List.mem_mergeSort]
  refine List.mem_append_right _ (List.mem_filter.mpr ⟨?_, decide_eq_true htype⟩)
  rw [hkey]
  exact hm

theorem of_mem_pending {service : SignalingService} {key requested : String} {m : Message}
    (hkey : key = box.key) (hm : m ∈ service.pending key requested) :
    m ∈ service.mail box ∨ m ∈ service.slot box := by
  unfold SignalingService.pending at hm
  rw [List.mem_mergeSort] at hm
  rcases List.mem_append.mp hm with hm | hm
  · right
    unfold SignalingService.pendingControl at hm
    rw [hkey] at hm
    unfold SignalingService.slot
    split at hm
    · rename_i found hfound
      split at hm
      · rw [List.mem_singleton.mp hm]
        exact hfound
      · exact absurd hm List.not_mem_nil
    · exact absurd hm List.not_mem_nil
  · left
    rw [SignalingService.pendingOrdinary, hkey] at hm
    exact (List.mem_filter.mp hm).1

/-- The message has waited as long as messages may, by one of so many looks at the clock. -/
def Aged (config : SignalingServerConfig) (w : Circumstances) (looks : ℕ) (m : Message) : Prop :=
  ∃ n < looks, config.signalingMessageTtlMs ≤ w.steady n / 10 ^ 6 - m.queuedAtMonotonicMs

theorem Aged.mono {looks looks' : ℕ} {m : Message} (hle : looks ≤ looks')
    (h : Aged config w looks m) : Aged config w looks' m := by
  obtain ⟨n, hn, haged⟩ := h
  exact ⟨n, lt_of_lt_of_le hn hle, haged⟩

/-- The messages of a participant, after those that are too old have gone.  What is taken with them
is among them. -/
theorem takeSignalingMessages_gives (box : Mailbox) (sessionId recipient requested : String)
    (consume : Bool) (c : Call) :
    Ensures (takeSignalingMessages config w sessionId recipient requested consume) c
      (fun pending c' => Sheds box (fun m => Aged config w c'.looks m ∨
          consume = true ∧ messageKey sessionId recipient = box.key ∧ m ∈ pending) c c' ∧
        (consume = false →
          pending = c'.service.pending (messageKey sessionId recipient) requested))
      fun _ _ => False := by
  unfold takeSignalingMessages monotonicNowMs steadyNow
  simp only [ensures_bind, ensures_look, ensures_pure, ensures_update, ensures_theService]
  have haged : ∀ m : Message, config.signalingMessageTtlMs ≤
      w.steady c.looks / 10 ^ 6 - m.queuedAtMonotonicMs → Aged config w (c.looks + 1) m :=
    fun m h => ⟨c.looks, Nat.lt_succ_self _, h⟩
  refine .whenever (fun hconsume => ?_) fun hkept => ⟨?_, fun _ => rfl⟩
  · rw [ensures_update]
    refine ⟨IsTrans.trans _ _ _ (sheds_expired config c _ _ fun m h => .inl (haged m h))
      (sheds_consumed config _ _ _ ?_), fun hkept => ?_⟩
    · intro hkey m hm htype
      exact .inr ⟨hconsume, hkey, mem_pending hkey hm htype⟩
    · rw [hconsume] at hkept
      cases hkept
  · exact sheds_expired config c _ _ fun m h => .inl (haged m h)

theorem acknowledgeSignalingMessages_gives (config : SignalingServerConfig)
    (sessionId recipient : String) (deliveryCursor : ℕ) (controlOnly : Bool) (c : Call)
    (hlost : messageKey sessionId recipient = box.key → controlOnly = false → ∀ m : Message,
      m.deliveryCursor ≤ deliveryCursor → lost m) :
    Ensures (acknowledgeSignalingMessages sessionId recipient deliveryCursor controlOnly) c
      (fun _ => Sheds box lost c) fun _ _ => False := by
  unfold acknowledgeSignalingMessages
  simp only [ensures_bind, ensures_theService, ensures_update, ensures_pure]
  exact sheds_acknowledged config c _ _ _ hlost

/-! ## Queueing -/

theorem sheds_queued (config : SignalingServerConfig) {accepted : Accepted}
    (hqueued : c'.queued = c.queued ++ [accepted])
    (hservice : c'.service = c.service.queue accepted) (hasked : c'.asked = c.asked)
    (hadmitted : accepted.post.Admitted c.service)
    (hnext : c.service.verdict accepted.post = .next) (hfrom : accepted.From c.service) :
    Sheds box lost c c' := by
  have hmoves := @moves_of_queued config { Grounds.none with queues := True } c c' accepted hqueued
    hservice hasked hadmitted hnext hfrom trivial
  refine ⟨Moves.carries hmoves, ?_, ?_⟩
  · intro _ m hm
    left
    rw [hservice]
    by_cases hkey : accepted.post.recipientKey = box.key
    · rw [mail_queue c.service hkey]
      split
      · exact hm
      · exact List.mem_append_left _ hm
    · exact (alike_queue c.service hkey).mail ▸ hm
  · intro _ a ha
    rw [hqueued] at ha
    refine (List.mem_append.mp ha).imp_right fun ha hkey hcontrol => ?_
    obtain rfl := List.mem_singleton.mp ha
    left
    rw [hservice, mail_queue c.service hkey, if_neg hcontrol]
    exact List.mem_append_right _ List.mem_cons_self

theorem queueMessage_sheds (config : SignalingServerConfig) {post : Post}
    (receivedAtUtcMs receivedMonotonicMs : ℤ)
    (hadmitted : post.Admitted c.service) (hnext : c.service.verdict post = .next) :
    Ensures (queueMessage w receivedAtUtcMs receivedMonotonicMs post) c
      (fun _ => Sheds box lost c) fun _ => Sheds box lost c := by
  unfold queueMessage nowMs monotonicNowMs steadyNow
  simp only [ensures_bind, ensures_theService, ensures_update, ensures_look, ensures_pure,
    ensures_modify]
  have haudit : Within (Sheds box lost) (whenever (post.type ≠ "control_command")
      (audit w ⟨post.type, post.details⟩)) := sheds_aside (Within.whenever (Aside.audit _))
  refine (haudit _).mono (fun _ _ => trans_of (Sheds box lost) ?_)
    fun _ _ => trans_of (Sheds box lost) ?_
  all_goals
    exact sheds_queued config rfl rfl rfl hadmitted hnext
      ⟨rfl, rfl, rfl, rfl, rfl, rfl, rfl, rfl, rfl⟩

theorem enqueueSignalingMessage_sheds (sessionId : String) (value : Json)
    (actor : Option String) :
    Within (Sheds box lost) (enqueueSignalingMessage config w sessionId value actor) := by
  refine (sheds_aside Aside.nowMs).bind fun receivedAtUtcMs =>
    (sheds_aside Aside.monotonicNowMs).bind fun receivedMonotonicMs c => ?_
  have haside : ∀ {c'}, Aside c c' → Sheds box lost c c' :=
    fun h => sheds_of_traffic h.traffic
  rw [ensures_bind]
  refine (admitMessage_admits sessionId value actor).mono ?_ fun _ _ h => haside h
  rintro post c' ⟨h, hadmitted, -⟩
  have hsheds := haside h
  rw [ensures_bind, ensures_theService]
  cases hverdict : c'.service.verdict post with
  | older => exact hsheds
  | reused => exact hsheds
  | retry acknowledgement =>
    have hretry : Within (Sheds box lost)
        (acceptPost w receivedAtUtcMs receivedMonotonicMs post (.retry acknowledgement)) :=
      (sheds_aside (Aside.audit _)).bind fun _ => .pure _
    exact (hretry _).mono (fun _ _ => trans_of (Sheds box lost) hsheds)
      fun _ _ => trans_of (Sheds box lost) hsheds
  | next =>
    exact (queueMessage_sheds config receivedAtUtcMs receivedMonotonicMs hadmitted hverdict).mono
      (fun _ _ => trans_of (Sheds box lost) hsheds)
      fun _ _ => trans_of (Sheds box lost) hsheds

theorem kept_sheds : Kept config w (Sheds box lost) where
  aside _ _ h := sheds_of_traffic h.traffic
  cleanup := (borne_sheds config).cleanup
  approvals := (borne_sheds config).approvals

/-! ## Requests -/

theorem renewSession_sheds (sessionId : String) (body : Json) :
    Within (Sheds box lost) (renewSession config w sessionId body) :=
  sheds_of_untouched (carries_moves .none (renewSession_moves sessionId body))
    ((Within.liftResult _).bind fun _ => (untouched_aside (Aside.requireParticipant _ _)).bind
      fun _ => (Within.refuseIf _ _).bind fun _ =>
      (untouched_aside (Aside.validateActorCredential _ _ _)).bind fun _ =>
      (untouched_aside Aside.nowMs).bind fun _ => .bind (untouched_update fun _ => rfl) fun _ =>
      (untouched_aside (Aside.audit _)).bind fun _ => (untouched_aside Aside.theService).bind
      fun _ => .pure _)

theorem approvalCancel_sheds (config : SignalingServerConfig) (body : Json) :
    Within (Sheds box lost) (approvalCancel w body) := by
  refine (Within.liftResult _).bind fun _ => (Within.liftResult _).bind fun vehicleId =>
    (Within.liftResult _).bind fun _ =>
    (sheds_aside (Aside.validateDriverToken _ _)).bind fun _ => (Within.liftResult _).bind fun _ =>
    (sheds_aside Aside.theService).bind fun _ =>
    (sheds_aside (Aside.generationAt _ _)).bind fun _ =>
    (sheds_aside Aside.theService).bind fun s => ?_
  cases s.mobileApprovals.lookup vehicleId with
  | none => exact .throw _
  | some approval =>
    exact (Within.refuseIf _ _).bind fun _ => (Within.whenever (closeSession_sheds config _ _)).bind
      fun _ => .ite (.bind (sheds_update fun _ => rfl) fun _ =>
        (sheds_aside (Aside.details _ _)).bind fun _ =>
        (sheds_aside (Aside.audit _)).bind fun _ => .pure _) (.pure _)

theorem openSession_sheds (driverId vehicleId : String) :
    Within (Sheds box lost) (openSession config w driverId vehicleId) := by
  refine sheds_of_untouched ?_ ?_
  · intro c
    exact (openSession_moves (g := { Grounds.none with opens := True }) driverId vehicleId
      trivial).mono (fun _ _ h => Moves.carries h.1) fun _ _ h => Moves.carries h
  · refine .bind (untouched_update fun _ => rfl) fun _ =>
      (untouched_aside Aside.theService).bind fun _ => (untouched_aside Aside.nowMs).bind fun _ =>
      (untouched_aside Aside.randomToken).bind fun _ => (untouched_aside Aside.nowMs).bind fun _ =>
      .bind (untouched_update fun _ => rfl) fun _ => .bind ?_ fun _ => .pure _
    exact Within.whenever (untouched_update fun _ => rfl)

theorem grantAuthority_sheds (sessionId : String) (session : Session) :
    Within (Sheds box lost) (grantAuthority config w sessionId session) := by
  have htransition : ∀ next reason,
      Within (Sheds box lost) (transitionSession w sessionId next reason) :=
    fun next reason => sheds_of_untouched (transitionSession_carries _ _ _)
      (transitionSession_untouched _ _ _)
  exact (sheds_aside (Aside.audit _)).bind fun _ => (htransition _ _).bind fun _ =>
    (htransition _ _).bind fun _ => (htransition _ _).bind fun _ =>
    (sheds_aside Aside.theService).bind fun _ => (sheds_aside (Aside.tryAudit _)).bind fun _ =>
    .whenever ((closeSession_sheds config _ _).bind fun _ => .throw _)

theorem createSession_sheds (body : Json) :
    Within (Sheds box lost) (createSession config w body) := by
  refine (Within.liftResult _).bind fun driverId => (Within.liftResult _).bind fun vehicleId =>
    (sheds_apart (Apart.authorizeSession _ _ _)).bind fun _ =>
    (openSession_sheds driverId vehicleId).bind fun created => .bind ?_ fun _ =>
    (sheds_aside Aside.theService).bind fun _ => .pure _
  refine Within.tryCatch (grantAuthority_sheds _ _) fun _ => .bind (fun c => ?_) fun _ => .throw _
  exact Untouched.sheds ⟨rfl, rfl⟩ (carries_adjust c created.1
    fun _ _ => ⟨fun _ => SessionState.Over.begun (.inr rfl), fun _ => .inr rfl⟩)

/-- The request polls the mailbox, and the answer hands the message out. -/
def Request.Hands (request : Request) (box : Mailbox) (answer : Except Refusal Answer)
    (m : Message) : Prop :=
  ∃ sessionId recipient types credentials pending,
    request = .pollMessages sessionId recipient types credentials ∧
    messageKey sessionId recipient = box.key ∧ answer = .ok (.messages pending) ∧ m ∈ pending

theorem pollMessages_gives (sessionId recipient types : String) (credentials : Json) (c : Call) :
    Ensures (pollMessages config w sessionId recipient types credentials) c
      (fun answer c' => Sheds box (fun m => Aged config w c'.looks m ∨
        Request.Hands (.pollMessages sessionId recipient types credentials) box (.ok answer) m)
          c c')
      fun _ => Sheds box Nothing c := by
  have hparticipant : Within (Sheds box Nothing)
      (requireParticipant sessionId recipient) := sheds_aside (Aside.requireParticipant _ _)
  have hcredential : ∀ session, Within (Sheds box Nothing)
      (validateActorCredential config w session recipient credentials) :=
    fun session => sheds_aside (Aside.validateActorCredential _ _ _)
  have hrefl : Sheds box Nothing c c := Std.Refl.refl c
  unfold pollMessages
  rw [ensures_bind]
  refine .refuseIf (fun _ => ?_) fun _ => hrefl
  refine (hparticipant c).bind fun session c₁ h₁ => ?_
  refine .bind ((hcredential session c₁).mono (fun _ _ h₂ => h₁.behind h₂)
    fun _ _ h₂ => h₁.behind h₂) fun _ c₂ h₂ => ?_
  refine .bind ((takeSignalingMessages_gives box sessionId recipient types true c₂).mono
    (fun pending c₃ h₃ => h₂.behind h₃.1) fun _ _ => False.elim) fun pending c₃ h₃ => ?_
  exact h₃.mono fun m hm => hm.imp_right fun ⟨_, hkey, hm⟩ =>
    ⟨_, _, _, _, pending, rfl, hkey, rfl, hm⟩

theorem handle_sheds (request : Request)
    (hpoll : ∀ sessionId recipient types credentials,
      request ≠ .pollMessages sessionId recipient types credentials) :
    Within (Sheds box lost) (request.handle config w) := by
  have hborne : Borne w (Sheds box lost) := borne_sheds config
  cases request with
  | revokeDriver body => exact hborne.revokeDriver body
  | restoreDriver body => exact hborne.restoreDriver body
  | revokeVehicle body => exact hborne.revokeVehicle body
  | restoreVehicle body => exact hborne.restoreVehicle body
  | driverLogin body => exact hborne.driverLogin body
  | driverHeartbeat body => exact sheds_aside (Aside.driverHeartbeat body)
  | driverLogout body => exact hborne.driverLogout body
  | vehicleOnline body => exact hborne.vehicleOnline body
  | vehicleHeartbeat body => exact sheds_aside (Aside.vehicleHeartbeat body)
  | vehicleOffline body => exact hborne.vehicleOffline body
  | approvalCancel body => exact approvalCancel_sheds config body
  | createSession body => exact createSession_sheds body
  | renewSession sessionId body => exact renewSession_sheds sessionId body
  | endSession sessionId body => exact hborne.closeAuthority sessionId body _ _
  | revokeAuthority sessionId body => exact hborne.closeAuthority sessionId body _ _
  | report sessionId body records => exact sheds_aside (Aside.report sessionId body records)
  | postMessage sessionId body =>
    exact (enqueueSignalingMessage_sheds sessionId body none).bind fun _ => .pure _
  | authorizedVehicles driverId token =>
    exact sheds_aside (Aside.authorizedVehicles driverId token)
  | pollMessages sessionId recipient types credentials => exact absurd rfl (hpoll _ _ _ _)
  | vehicleSession vehicleId credentials =>
    exact sheds_aside (Aside.vehicleSession vehicleId credentials)
  | readSession sessionId actor credentials =>
    exact sheds_aside (Aside.readSession sessionId actor credentials)
  | iceServers sessionId actor credentials =>
    exact sheds_aside (Aside.iceServers sessionId actor credentials)
  | mobileLogin source body => exact sheds_aside (Aside.mobileLogin source body)
  | mobileLogout token => exact sheds_aside (Aside.mobileLogout token)
  | mobileRequests token => exact sheds_aside (Aside.mobileRequests token)
  | mobileDecision token requestId body => exact sheds_apart (Apart.mobileDecision _ _ _)
  | sessionLogs driverId token start => exact kept_sheds.sessionLogs driverId token start

/-- A request takes only what it hands out. -/
theorem serve_gives (request : Request) (c : Call) :
    Ensures (request.serve config w) c
      (fun answer c' => Sheds box (fun m => Aged config w c'.looks m ∨
        request.Hands box (.ok answer) m) c c')
      fun refusal c' => Sheds box (fun m => Aged config w c'.looks m ∨
        request.Hands box (.error refusal) m) c c' := by
  have hprepare : Within (Sheds box Nothing) (request.prepare config w) :=
    kept_sheds.prepare request
  refine .bind ((hprepare c).mono (fun _ _ h => h) fun _ _ h => h.mono fun _ => False.elim)
    fun _ c₁ h₁ => ?_
  by_cases hpoll : ∀ sessionId recipient types credentials,
      request ≠ .pollMessages sessionId recipient types credentials
  · have hhandle : Within (Sheds box Nothing) (request.handle config w) :=
      handle_sheds request hpoll
    exact (hhandle c₁).mono (fun _ _ h => h₁.behind (h.mono fun _ => False.elim))
      fun _ _ h => h₁.behind (h.mono fun _ => False.elim)
  · simp only [not_forall, not_not] at hpoll
    obtain ⟨sessionId, recipient, types, credentials, rfl⟩ := hpoll
    exact (pollMessages_gives sessionId recipient types credentials c₁).mono
      (fun _ _ h => h₁.behind h) fun _ _ h => h₁.behind (h.mono fun _ => False.elim)

/-! ## Turns of a connection -/

def Connection.key (connection : Connection) : String :=
  messageKey connection.sessionId connection.participant

/-- What a turn sends: all that waits for the participant. -/
def Connection.Sends (connection : Connection) (answer : Answer) (sent : Connection)
    (service : SignalingService) : Prop :=
  sent = connection ∨ ∃ delivered last sentAt, last ∈ delivered ∧
    answer = .delivery last.deliveryCursor delivered ∧
    sent = { connection with
      lastDeliveryCursorSent := max connection.lastDeliveryCursorSent last.deliveryCursor
      lastDeliverySentAt := sentAt } ∧
    delivered = service.pending connection.key
      (if connection.controlReceiveOnly then "control_command" else "")

theorem pending_gives (connection : Connection) (c : Call) :
    Ensures (connection.pending config w) c
      (fun result c' => Sheds box (Aged config w c'.looks) c c' ∧
        connection.Sends result.1 result.2 c'.service)
      fun _ c' => Sheds box (Aged config w c'.looks) c c' := by
  have hauthenticate : Within (Sheds box Nothing) (connection.authenticate config w) :=
    kept_sheds.authenticate connection
  unfold Connection.pending
  refine .bind ((hauthenticate c).mono (fun _ _ h => h) fun _ _ h => h.mono fun _ => False.elim)
    fun _ c₁ h₁ => ?_
  refine .ite (fun _ => ⟨h₁.mono fun _ => False.elim, .inl rfl⟩) fun _ => ?_
  refine .bind ((takeSignalingMessages_gives box _ _ _ false c₁).mono (fun _ _ h₂ => h₂)
    fun _ _ => False.elim) fun pending c₂ htaken => ?_
  have h₂ : Sheds box (Aged config w c₂.looks) c c₂ :=
    h₁.behind (htaken.1.mono fun _ hm => hm.resolve_right fun h => Bool.false_ne_true h.1)
  have hpending := htaken.2 rfl
  cases hlast : pending.getLast? with
  | none => exact ⟨h₂, .inl rfl⟩
  | some last =>
    simp only [steadyNow, ensures_bind, ensures_look]
    have h₃ : Sheds box (Aged config w (c₂.looks + 1)) c { c₂ with looks := c₂.looks + 1 } :=
      IsTrans.trans _ _ _ (h₂.mono fun _ h => h.mono (Nat.le_succ _)) (sheds_of_traffic rfl)
    refine .ite (fun _ => ⟨h₃, .inr ?_⟩) fun _ => ⟨h₃, .inl rfl⟩
    exact ⟨pending, last, _, List.mem_of_getLast? hlast, rfl, rfl, hpending⟩

/-- The connection acknowledges the number of the message, and has sent it. -/
def Connection.Confirms (connection : Connection) (box : Mailbox)
    (answer : Except Refusal Answer) (m : Message) : Prop :=
  connection.key = box.key ∧ connection.controlReceiveOnly = false ∧
    ∃ deliveryCursor count, answer = .ok (.acknowledged deliveryCursor count) ∧
      m.deliveryCursor ≤ deliveryCursor ∧ deliveryCursor ≤ connection.lastDeliveryCursorSent

theorem receiveAck_gives (connection : Connection) (message : Json) (c : Call) :
    Ensures (connection.receiveAck config w message) c
      (fun answer => Sheds box (connection.Confirms box (.ok answer)) c)
      fun refusal => Sheds box (connection.Confirms box (.error refusal)) c := by
  have hrefl : ∀ refusal, Sheds box (connection.Confirms box (.error refusal)) c c :=
    fun _ => Std.Refl.refl c
  have hauthenticate : Within (Sheds box Nothing) (connection.authenticate config w) :=
    kept_sheds.authenticate connection
  unfold Connection.receiveAck
  rw [ensures_bind]
  refine .liftResult (fun deliveryCursor _ => ?_) fun _ _ => hrefl _
  rw [ensures_bind]
  refine .liftResult (fun _ _ => ?_) fun _ _ => hrefl _
  rw [ensures_bind]
  refine .refuseIf (fun _ => ?_) fun _ => hrefl _
  rw [ensures_bind]
  refine .liftResult (fun _ _ => ?_) fun _ _ => hrefl _
  rw [ensures_bind]
  refine .liftResult (fun _ _ => ?_) fun _ _ => hrefl _
  rw [ensures_bind]
  refine .refuseIf (fun hsent => ?_) fun _ => hrefl _
  refine .bind ((hauthenticate c).mono (fun _ _ h => h) fun _ _ h => h.mono fun _ => False.elim)
    fun _ c₁ h₁ => ?_
  refine .bind ((acknowledgeSignalingMessages_gives config _ _ _ _ c₁ fun hkey hall m hle =>
    show m ∈ {m : Message | connection.key = box.key ∧ connection.controlReceiveOnly = false ∧
      m.deliveryCursor ≤ deliveryCursor} from ⟨hkey, hall, hle⟩).mono
    (fun _ _ h₂ => h₁.behind h₂) fun _ _ => False.elim) fun count c₂ h₂ => ?_
  refine h₂.mono fun m hm => ?_
  obtain ⟨hkey, hall, hle⟩ := hm
  exact ⟨hkey, hall, deliveryCursor, count, rfl, hle, not_lt.mp hsent⟩

theorem receivePost_sheds (connection : Connection) (message : Json) :
    Within (Sheds box lost) (connection.receivePost config w message) :=
  (Within.refuseIf _ _).bind fun _ => (kept_sheds.authenticate connection).bind fun _ =>
    (Within.liftResult _).bind fun _ => (Within.refuseIf _ _).bind fun _ =>
    (enqueueSignalingMessage_sheds _ _ _).bind fun _ => .pure _

theorem receive_gives (connection : Connection) (message : Json) (c : Call) :
    Ensures (connection.receive config w message) c
      (fun answer => Sheds box (connection.Confirms box (.ok answer)) c)
      fun refusal => Sheds box (connection.Confirms box (.error refusal)) c := by
  have hpost : Within (Sheds box Nothing) (connection.receivePost config w message) :=
    receivePost_sheds connection message
  have hposted : Ensures (connection.receivePost config w message) c
      (fun answer => Sheds box (connection.Confirms box (.ok answer)) c)
      fun refusal => Sheds box (connection.Confirms box (.error refusal)) c :=
    (hpost c).mono (fun _ _ h => h.mono fun _ => False.elim)
      fun _ _ h => h.mono fun _ => False.elim
  refine .ite (fun _ => hposted) fun _ => ?_
  rw [ensures_bind]
  exact .liftResult (fun event _ => .ite (fun _ => receiveAck_gives connection message c)
    fun _ => hposted) fun _ _ => Std.Refl.refl c

end MineTeleop.Signaling
