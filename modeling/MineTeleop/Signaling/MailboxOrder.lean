import MineTeleop.Signaling.Spaces

/-!
# The mailbox of a participant

Ordinary messages wait in a queue, the latest control command in a place of its own, and both are
numbered by one counter.

Proved here, for every configuration and every circumstances:

* `Move.carries`: no move disorders a mailbox, lets its counter fall while the session goes on, or
  puts anything into it but a message with a new number;
* `Moves.carries`: neither does a sequence of moves.
-/

namespace MineTeleop.Signaling

open Documents Programs Tables Runs

variable {config : SignalingServerConfig} {w : Circumstances} {g : Grounds} {c c' c'' : Call}

/-- The mailbox of a participant of the session with a number. -/
structure Mailbox where
  number : ℕ
  participant : String

namespace Mailbox

def sessionId (box : Mailbox) : String := sessionName box.number

def key (box : Mailbox) : String := messageKey box.sessionId box.participant

theorem sessionId_eq {box : Mailbox} {sessionId participant : String} (hnamed : Named sessionId)
    (h : messageKey sessionId participant = box.key) : sessionId = box.sessionId :=
  (messageKey_inj hnamed (separator_notMem_sessionName _) h).1

end Mailbox

namespace SignalingService

variable (service : SignalingService) (box : Mailbox)

def mail : List Message := (service.messages.lookup box.key).getD []

def slot : Option Message := service.latestControlMessages.lookup box.key

def cursor : ℕ := (service.nextDeliveryCursors.lookup box.key).getD 0

end SignalingService

/-- Nothing has ever been put into the mailbox, or all of it has been cleared away. -/
structure Bare (service : SignalingService) (box : Mailbox) : Prop where
  mail : service.mail box = []
  slot : service.slot box = none
  cursor : service.cursor box = 0

/-- The mailbox is as it was. -/
structure Alike (box : Mailbox) (service service' : SignalingService) : Prop where
  mail : service'.mail box = service.mail box
  slot : service'.slot box = service.slot box
  cursor : service'.cursor box = service.cursor box

/-- The mailbox holds what it held, or less. -/
structure Fades (box : Mailbox) (service service' : SignalingService) : Prop where
  mail : (service'.mail box).Sublist (service.mail box)
  slot : ∀ m ∈ service'.slot box, m ∈ service.slot box
  cursor : service'.cursor box = service.cursor box

/-- The messages stand in the order of their numbers, none of them is numbered twice, and before
its session has begun there are none. -/
structure Sound (service : SignalingService) (box : Mailbox) : Prop where
  numbered : service.Numbered
  unborn : (∀ session, service.sessions.lookup box.sessionId = some session →
    ¬session.state.Begun) → Bare service box
  rising : (service.mail box).Pairwise fun m m' => m.deliveryCursor < m'.deliveryCursor
  counted : ∀ m ∈ service.mail box, m.deliveryCursor ≤ service.cursor box
  slot : ∀ m ∈ service.slot box, m.deliveryCursor ≤ service.cursor box ∧
    ∀ m' ∈ service.mail box, m'.deliveryCursor ≠ m.deliveryCursor

/-- The message has been accepted for the mailbox, with a number above all that came before. -/
structure Enters (box : Mailbox) (c c' : Call) (m : Message) : Prop where
  open_ : ¬c.service.Over box.sessionId
  cursor : c.service.cursor box < m.deliveryCursor
  accepted : ∃ a ∈ c'.queued, a.message = m ∧ a.post.recipientKey = box.key

/-- A message accepted for the mailbox has a number above all that came before. -/
structure Rises (box : Mailbox) (c c' : Call) (m : Message) : Prop where
  open_ : ¬c.service.Over box.sessionId
  above : c.service.cursor box < m.deliveryCursor
  below : c'.service.Over box.sessionId ∨ m.deliveryCursor ≤ c'.service.cursor box

structure Onward (box : Mailbox) (c c' : Call) : Prop where
  ended : c.service.Over box.sessionId → c'.service.Over box.sessionId
  cursor : c'.service.Over box.sessionId ∨ c.service.cursor box ≤ c'.service.cursor box
  mail : ∀ m ∈ c'.service.mail box, m ∈ c.service.mail box ∨ Enters box c c' m
  slot : ∀ m ∈ c'.service.slot box, m ∈ c.service.slot box ∨ Enters box c c' m
  queued : c.queued <+: c'.queued
  rises : ∀ a ∈ c'.queued, a ∈ c.queued ∨ (a.post.recipientKey = box.key →
    Rises box c c' a.message)
  newest : ∀ a ∈ c'.queued, a ∈ c.queued ∨ (a.post.recipientKey = box.key → a.post.Control →
    ∀ m ∈ c'.service.slot box, a.message.deliveryCursor ≤ m.deliveryCursor)

/-- A sound mailbox stays sound, and what enters it is new. -/
def Carries (box : Mailbox) (c c' : Call) : Prop :=
  Sound c.service box → Sound c'.service box ∧ Onward box c c'

variable {box : Mailbox}

theorem Enters.after {m : Message} (h : Onward box c c') (hm : Enters box c' c'' m) :
    Enters box c c'' m := by
  have hopen : ¬c'.service.Over box.sessionId := hm.open_
  refine ⟨fun hover => hopen (h.ended hover), ?_, hm.accepted⟩
  have hle := h.cursor.resolve_left hopen
  have hlt := hm.cursor
  omega

theorem Enters.before {m : Message} (h : c'.queued <+: c''.queued) (hm : Enters box c c' m) :
    Enters box c c'' m := by
  obtain ⟨a, ha, hmessage⟩ := hm.accepted
  exact ⟨hm.open_, hm.cursor, a, h.subset ha, hmessage⟩

theorem Onward.trans (h : Onward box c c') (h' : Onward box c' c'') : Onward box c c'' := by
  constructor
  · exact fun hover => h'.ended (h.ended hover)
  · rcases h.cursor with hover | hle
    · exact .inl (h'.ended hover)
    · rcases h'.cursor with hover | hle'
      · exact .inl hover
      · exact .inr (hle.trans hle')
  · intro m hm
    rcases h'.mail m hm with hm | hm
    · exact (h.mail m hm).imp_right (Enters.before h'.queued)
    · exact .inr (hm.after h)
  · intro m hm
    rcases h'.slot m hm with hm | hm
    · exact (h.slot m hm).imp_right (Enters.before h'.queued)
    · exact .inr (hm.after h)
  · exact h.queued.trans h'.queued
  · intro a ha
    rcases h'.rises a ha with ha | hrises
    · refine (h.rises a ha).imp_right fun hrises hkey => ?_
      obtain ⟨hopen, habove, hbelow⟩ := hrises hkey
      refine ⟨hopen, habove, ?_⟩
      rcases hbelow with hover | hle
      · exact .inl (h'.ended hover)
      · exact h'.cursor.imp_right hle.trans
    · refine .inr fun hkey => ?_
      obtain ⟨hopen, habove, hbelow⟩ := hrises hkey
      have hle := h.cursor.resolve_left hopen
      exact ⟨fun hover => hopen (h.ended hover), lt_of_le_of_lt hle habove, hbelow⟩
  · intro a ha
    rcases h'.newest a ha with ha | hnewest
    · rcases h.newest a ha, h.rises a ha with ⟨ha | hnewest, ha | hrises⟩
      · exact .inl ha
      · exact .inl ha
      · exact .inl ha
      · refine .inr fun hkey hcontrol m hm => ?_
        rcases h'.slot m hm with hm | hm
        · exact hnewest hkey hcontrol m hm
        · have hle := (hrises hkey).below.resolve_left hm.open_
          exact hle.trans hm.cursor.le
    · exact .inr hnewest

instance : Std.Refl (Carries box) where
  refl _ hsound :=
    ⟨hsound, id, .inr le_rfl, fun _ => .inl, fun _ => .inl, List.prefix_rfl, fun _ => .inl,
      fun _ => .inl⟩

instance : IsTrans Call (Carries box) where
  trans _ _ _ h h' hsound := by
    obtain ⟨hsound', honward⟩ := h hsound
    obtain ⟨hsound'', honward'⟩ := h' hsound'
    exact ⟨hsound'', honward.trans honward'⟩

/-! ## Less in a mailbox -/

namespace Fades

variable {service service' : SignalingService}

theorem of_alike (h : Alike box service service') : Fades box service service' := by
  obtain ⟨hmail, hslot, hcursor⟩ := h
  exact ⟨hmail ▸ List.Sublist.refl _, fun _ hm => hslot ▸ hm, hcursor⟩

theorem bare (h : Fades box service service') (hbare : Bare service box) : Bare service' box := by
  obtain ⟨hmail, hslot, hcursor⟩ := hbare
  constructor
  · exact List.sublist_nil.mp (hmail ▸ h.mail)
  · rw [Option.eq_none_iff_forall_not_mem]
    intro m hm
    simpa [hslot] using h.slot m hm
  · exact h.cursor.trans hcursor

/-- Less of a sound mailbox is sound, as long as its session is as far as before. -/
theorem sound (h : Fades box service service') (hsound : Sound service box)
    (hnumbered : service'.Numbered)
    (hbegun : (∀ session, service'.sessions.lookup box.sessionId = some session →
        ¬session.state.Begun) →
      ∀ session, service.sessions.lookup box.sessionId = some session → ¬session.state.Begun) :
    Sound service' box := by
  constructor
  · exact hnumbered
  · intro hunborn
    exact h.bare (hsound.unborn (hbegun hunborn))
  · exact hsound.rising.sublist h.mail
  · intro m hm
    rw [h.cursor]
    exact hsound.counted m (h.mail.subset hm)
  · intro m hm
    obtain ⟨hle, hother⟩ := hsound.slot m (h.slot m hm)
    rw [h.cursor]
    exact ⟨hle, fun m' hm' => hother m' (h.mail.subset hm')⟩

theorem onward {c c' : Call} (h : Fades box c.service c'.service)
    (hover : c.service.Over box.sessionId → c'.service.Over box.sessionId)
    (hqueued : c'.queued = c.queued) : Onward box c c' where
  ended := hover
  cursor := .inr h.cursor.symm.le
  mail _ hm := .inl (h.mail.subset hm)
  slot _ hm := .inl (h.slot _ hm)
  queued := hqueued ▸ List.prefix_rfl
  rises _ ha := .inl (hqueued ▸ ha)
  newest _ ha := .inl (hqueued ▸ ha)

/-- A call that leaves the sessions alone. -/
theorem carries {c c' : Call} (h : Fades box c.service c'.service)
    (hsessions : c'.service.sessions = c.service.sessions)
    (hnumbered : c.service.Numbered → c'.service.Numbered) (hqueued : c'.queued = c.queued) :
    Carries box c c' := by
  intro hsound
  refine ⟨h.sound hsound (hnumbered hsound.numbered) ?_, h.onward ?_ hqueued⟩
  · rw [hsessions]
    exact id
  · unfold SignalingService.Over
    rw [hsessions]
    exact id

end Fades

/-! ### Sessions that go on -/

theorem SessionState.Over.begun {state : SessionState} (h : state.Over) : state.Begun := by
  revert h
  cases state <;> simp [SessionState.Over, SessionState.Begun]

/-- What is no part of the traffic does not matter. -/
theorem carries_traffic (h : c'.traffic = c.traffic) : Carries box c c' := by
  have hsessions : c'.service.sessions = c.service.sessions := congrArg Traffic.sessions h
  have hmessages : c'.service.messages = c.service.messages := congrArg Traffic.messages h
  have hslots : c'.service.latestControlMessages = c.service.latestControlMessages :=
    congrArg Traffic.latestControlMessages h
  have hcursors : c'.service.nextDeliveryCursors = c.service.nextDeliveryCursors :=
    congrArg Traffic.nextDeliveryCursors h
  have halike : Alike box c.service c'.service := by
    constructor
    · simp only [SignalingService.mail, hmessages]
    · simp only [SignalingService.slot, hslots]
    · simp only [SignalingService.cursor, hcursors]
  refine (Fades.of_alike halike).carries hsessions ?_ (congrArg Traffic.queued h)
  intro hnumbered sessionId session hfound
  rw [show c'.service.sessionCounter = c.service.sessionCounter from
    congrArg Traffic.sessionCounter h]
  exact hnumbered sessionId session (hsessions ▸ hfound)

theorem Bare.sound {service : SignalingService} (h : Bare service box)
    (hnumbered : service.Numbered) : Sound service box := by
  refine ⟨hnumbered, fun _ => h, ?_, ?_, ?_⟩
  · rw [h.mail]
    exact List.Pairwise.nil
  · simp [h.mail]
  · simp [h.slot]

/-- A change of a session that does not bring it back. -/
theorem carries_adjust (c : Call) (sessionId : String) {f : Session → Session}
    (hstate : ∀ s, c.service.sessions.lookup sessionId = some s →
      (s.state.Begun → (f s).state.Begun) ∧ (s.state.Over → (f s).state.Over)) :
    Carries box c { c with service := c.service.adjustSession sessionId f } := by
  intro hsound
  have hlookup : ∀ id, (c.service.adjustSession sessionId f).sessions.lookup id =
      if id = sessionId then (c.service.sessions.lookup id).map f
      else c.service.sessions.lookup id := fun _ => Table.lookup_adjust f
  have hfades : Fades box c.service (c.service.adjustSession sessionId f) :=
    .of_alike ⟨rfl, rfl, rfl⟩
  refine ⟨hfades.sound hsound (hsound.numbered.adjust sessionId f) ?_, hfades.onward ?_ rfl⟩
  · intro hunborn session hfound hbegun
    have hadjusted := hlookup box.sessionId
    rw [hfound] at hadjusted
    split at hadjusted
    · rename_i hsame
      exact hunborn _ hadjusted ((hstate session (hsame ▸ hfound)).1 hbegun)
    · exact hunborn _ hadjusted hbegun
  · rintro ⟨session, hfound, hover⟩
    have hadjusted := hlookup box.sessionId
    rw [hfound] at hadjusted
    split at hadjusted
    · rename_i hsame
      exact ⟨_, hadjusted, (hstate session (hsame ▸ hfound)).2 hover⟩
    · exact ⟨_, hadjusted, hover⟩

/-! ### Mailboxes that are cleared away -/

theorem forget_cases (box : Mailbox) (service : SignalingService) {sessionId : String}
    (session : Session) (hnamed : Named sessionId) :
    Alike box service (service.forgetMailboxes sessionId session) ∨
      sessionId = box.sessionId ∧ Bare (service.forgetMailboxes sessionId session) box := by
  by_cases hdriver : box.key = messageKey sessionId session.driverId
  · refine .inr ⟨box.sessionId_eq hnamed hdriver.symm, ?_⟩
    constructor <;> simp [SignalingService.mail, SignalingService.slot, SignalingService.cursor,
      SignalingService.forgetMailboxes, Table.lookup_erase, hdriver]
  by_cases hvehicle : box.key = messageKey sessionId session.vehicleId
  · refine .inr ⟨box.sessionId_eq hnamed hvehicle.symm, ?_⟩
    constructor <;> simp [SignalingService.mail, SignalingService.slot, SignalingService.cursor,
      SignalingService.forgetMailboxes, Table.lookup_erase, hvehicle]
  · left
    constructor <;> simp [SignalingService.mail, SignalingService.slot, SignalingService.cursor,
      SignalingService.forgetMailboxes, hdriver, hvehicle]

/-- The mailboxes of a session are cleared away when it is over, or has not begun. -/
theorem carries_forget (c : Call) {sessionId : String} {session : Session} (parties : Session)
    (hfound : c.service.sessions.lookup sessionId = some session)
    (hgone : session.state.Over ∨ ¬session.state.Begun) :
    Carries box c { c with service := c.service.forgetMailboxes sessionId parties } := by
  intro hsound
  rcases forget_cases box c.service parties (hsound.numbered.named hfound) with
    halike | ⟨rfl, hbare⟩
  · exact (Fades.of_alike halike).carries rfl id rfl hsound
  refine ⟨hbare.sound hsound.numbered, id, ?_, ?_, ?_, List.prefix_rfl, fun _ => .inl,
    fun _ => .inl⟩
  · rcases hgone with hover | hunborn
    · exact .inl ⟨session, hfound, hover⟩
    · refine .inr ((hsound.unborn fun s hs => ?_).cursor.trans_le (Nat.zero_le _))
      obtain rfl := Option.some.inj (hs.symm.trans hfound)
      exact hunborn
  · intro m hm
    exact absurd (hbare.mail ▸ hm) List.not_mem_nil
  · intro m hm
    exact absurd (hbare.slot ▸ hm) (Option.not_mem_none m)

/-- The session may as well stop before its mailboxes are cleared away. -/
theorem carries_stop (c : Call) {sessionId : String} {session : Session}
    (hfound : c.service.sessions.lookup sessionId = some session) :
    Carries box c { c with
      service := (c.service.empty sessionId session).setState sessionId .stopping } := by
  have hemptied := @carries_adjust box c sessionId
    ({ · with controlToken := "", controlTokenExpiresAtMs := 0 }) fun _ _ => ⟨id, id⟩
  have hstopped := IsTrans.trans _ _ _ hemptied (@carries_adjust box _ sessionId
    ({ · with state := .stopping }) fun _ _ =>
      ⟨fun _ => SessionState.Over.begun (.inl rfl), fun _ => .inl rfl⟩)
  have hfound' := lookup_setState .stopping (lookup_empty hfound)
  exact IsTrans.trans _ _ _ hstopped (carries_forget _ session hfound' (.inl (.inl rfl)))

theorem lookup_addSession {service : SignalingService} (h : service.Numbered) (session : Session)
    {sessionId : String} {s : Session} (hfound : service.sessions.lookup sessionId = some s) :
    (service.addSession session).sessions.lookup sessionId = some s := by
  refine (AList.lookup_insert_ne ?_).trans hfound
  rintro rfl
  rw [h.next_fresh] at hfound
  cases hfound

/-- A new session takes no other's place. -/
theorem carries_addSession (c : Call) (session : Session) :
    Carries box c { c with service := c.service.addSession session } := by
  intro hsound
  have hfades : Fades box c.service (c.service.addSession session) := .of_alike ⟨rfl, rfl, rfl⟩
  refine ⟨hfades.sound hsound (hsound.numbered.addSession session) ?_, hfades.onward ?_ rfl⟩
  · intro hunborn s hfound
    exact hunborn s (lookup_addSession hsound.numbered session hfound)
  · rintro ⟨s, hfound, hover⟩
    exact ⟨s, lookup_addSession hsound.numbered session hfound, hover⟩

/-! ### A message more -/

theorem cursor_queue (service : SignalingService) {accepted : Accepted}
    (hkey : accepted.post.recipientKey = box.key) :
    (service.queue accepted).cursor box = service.cursor box + 1 := by
  unfold SignalingService.queue SignalingService.deliver SignalingService.cursor
  rw [← hkey]
  split <;> simp [SignalingService.countDelivery, SignalingService.remember,
    SignalingService.cursorAfter]

theorem mail_queue (service : SignalingService) {accepted : Accepted}
    (hkey : accepted.post.recipientKey = box.key) :
    (service.queue accepted).mail box =
      if accepted.post.Control then service.mail box
      else service.mail box ++ [accepted.message] := by
  unfold SignalingService.queue SignalingService.deliver SignalingService.mail Post.Control
  rw [← hkey]
  split <;> rename_i hcontrol <;>
    simp [SignalingService.countDelivery, SignalingService.remember, hcontrol]

theorem slot_queue (service : SignalingService) {accepted : Accepted}
    (hkey : accepted.post.recipientKey = box.key) :
    (service.queue accepted).slot box =
      if accepted.post.Control then some accepted.message else service.slot box := by
  unfold SignalingService.queue SignalingService.deliver SignalingService.slot Post.Control
  rw [← hkey]
  split <;> rename_i hcontrol <;>
    simp [SignalingService.countDelivery, SignalingService.remember, hcontrol]

theorem alike_queue (service : SignalingService) {accepted : Accepted}
    (hkey : accepted.post.recipientKey ≠ box.key) : Alike box service (service.queue accepted) := by
  unfold SignalingService.queue SignalingService.deliver
  split <;> constructor <;>
    simp [SignalingService.mail, SignalingService.slot, SignalingService.cursor,
      SignalingService.countDelivery, SignalingService.remember, hkey.symm]

theorem mem_mail_queue {service : SignalingService} {accepted : Accepted} {m : Message}
    (hkey : accepted.post.recipientKey = box.key) (hm : m ∈ (service.queue accepted).mail box) :
    m ∈ service.mail box ∨ m = accepted.message ∧ ¬accepted.post.Control := by
  rw [mail_queue service hkey] at hm
  split at hm
  · exact .inl hm
  · rename_i hcontrol
    exact (List.mem_append.mp hm).imp_right fun hm => ⟨List.mem_singleton.mp hm, hcontrol⟩

theorem mem_slot_queue {service : SignalingService} {accepted : Accepted} {m : Message}
    (hkey : accepted.post.recipientKey = box.key) (hm : m ∈ (service.queue accepted).slot box) :
    m ∈ service.slot box ∨ m = accepted.message ∧ accepted.post.Control := by
  rw [slot_queue service hkey] at hm
  split at hm
  · rename_i hcontrol
    exact .inr ⟨(Option.some.inj hm).symm, hcontrol⟩
  · exact .inl hm

/-- A message with the next number goes behind all the others. -/
theorem Sound.queue {service : SignalingService} (h : Sound service box) {accepted : Accepted}
    (hkey : accepted.post.recipientKey = box.key)
    (hnew : accepted.message.deliveryCursor = service.cursor box + 1)
    (hbegun : ∃ session, service.sessions.lookup box.sessionId = some session ∧
      session.state.Begun) : Sound (service.queue accepted) box := by
  have hcursor := cursor_queue service hkey
  constructor
  · exact h.numbered.queue accepted
  · intro hunborn
    obtain ⟨session, hfound, hbegun⟩ := hbegun
    rw [(service.queue_sessions accepted).1] at hunborn
    exact absurd hbegun (hunborn session hfound)
  · rw [mail_queue service hkey]
    split
    · exact h.rising
    · rw [List.pairwise_append]
      refine ⟨h.rising, List.pairwise_singleton _ _, fun m hm m' hm' => ?_⟩
      obtain rfl := List.mem_singleton.mp hm'
      have hle := h.counted m hm
      omega
  · intro m hm
    rcases mem_mail_queue hkey hm with hm | ⟨rfl, -⟩
    · have hle := h.counted m hm
      omega
    · omega
  · intro m hm
    rcases mem_slot_queue hkey hm with hm | ⟨rfl, hcontrol⟩
    · obtain ⟨hle, hother⟩ := h.slot m hm
      refine ⟨by omega, fun m' hm' => ?_⟩
      rcases mem_mail_queue hkey hm' with hm' | ⟨rfl, -⟩
      · exact hother m' hm'
      · omega
    · refine ⟨by omega, fun m' hm' => ?_⟩
      rcases mem_mail_queue hkey hm' with hm' | ⟨-, hordinary⟩
      · have hle := h.counted m' hm'
        omega
      · exact absurd hcontrol hordinary

theorem carries_queue (c : Call) {accepted : Accepted}
    (hadmitted : accepted.post.Admitted c.service) (hfrom : accepted.From c.service) :
    Carries box c
      { c with service := c.service.queue accepted, queued := c.queued ++ [accepted] } := by
  intro hsound
  obtain ⟨session, hfound, hactive, -⟩ := hadmitted.active
  obtain ⟨hsessions, -⟩ := c.service.queue_sessions accepted
  have hover : (c.service.queue accepted).Over box.sessionId ↔ c.service.Over box.sessionId := by
    unfold SignalingService.Over
    rw [hsessions]
  by_cases hkey : accepted.post.recipientKey = box.key
  · have hid : accepted.post.sessionId = box.sessionId :=
      box.sessionId_eq (hsound.numbered.named hfound) hkey
    rw [hid] at hfound
    have hnew : accepted.message.deliveryCursor = c.service.cursor box + 1 := by
      rw [hfrom.cursor, hkey]
      rfl
    have hcursor := cursor_queue c.service hkey
    have henters : Enters box c
        { c with service := c.service.queue accepted, queued := c.queued ++ [accepted] }
        accepted.message := by
      refine ⟨?_, by omega, accepted, List.mem_append_right _ List.mem_cons_self, rfl, hkey⟩
      rintro ⟨s, hs, hstopped⟩
      obtain rfl := Option.some.inj (hs.symm.trans hfound)
      rw [hactive] at hstopped
      exact absurd hstopped (by decide)
    have hbegun : session.state.Begun := by
      rw [hactive]
      exact ⟨by decide, by decide⟩
    refine ⟨hsound.queue hkey hnew ⟨session, hfound, hbegun⟩, hover.mpr, ?_, ?_, ?_,
      List.prefix_append _ _, fun a ha => ?_, fun a ha => ?_⟩
    · right
      dsimp only
      omega
    · intro m hm
      rcases mem_mail_queue hkey hm with hm | ⟨rfl, -⟩
      · exact .inl hm
      · exact .inr henters
    · intro m hm
      rcases mem_slot_queue hkey hm with hm | ⟨rfl, -⟩
      · exact .inl hm
      · exact .inr henters
    · refine (List.mem_append.mp ha).imp_right fun ha _ => ?_
      obtain rfl := List.mem_singleton.mp ha
      refine ⟨henters.open_, henters.cursor, .inr ?_⟩
      dsimp only
      omega
    · refine (List.mem_append.mp ha).imp_right fun ha _ hcontrol m hm => ?_
      obtain rfl := List.mem_singleton.mp ha
      have hslot : some a.message = some m := by
        rw [← (Option.mem_def.mp hm : (c.service.queue a).slot box = some m),
          slot_queue c.service hkey, if_pos hcontrol]
      exact (congrArg Message.deliveryCursor (Option.some.inj hslot)).le
  · have hfades := Fades.of_alike (alike_queue c.service hkey)
    refine ⟨hfades.sound hsound (hsound.numbered.queue accepted) ?_, hover.mpr,
      .inr hfades.cursor.symm.le, fun m hm => .inl (hfades.mail.subset hm),
      fun m hm => .inl (hfades.slot m hm), List.prefix_append _ _, fun a ha => ?_, fun a ha => ?_⟩
    · rw [hsessions]
      exact id
    all_goals
      refine (List.mem_append.mp ha).imp_right fun ha hkey' => ?_
      obtain rfl := List.mem_singleton.mp ha
      exact absurd hkey' hkey

/-! ### Moves -/

theorem mail_kept (table : Table (List Message)) (keeps : Message → Bool) (key key' : String) :
    (((if ((table.lookup key).getD []).filter keeps = [] then table.erase key
      else table.insert key (((table.lookup key).getD []).filter keeps)).lookup key').getD
        []).Sublist ((table.lookup key').getD []) := by
  rw [SignalingService.lookup_kept]
  split
  · rename_i hkey
    subst hkey
    split
    · simp
    · simp
  · exact List.Sublist.refl _

theorem slot_kept {table : Table Message} {p : String → Message → Bool} {key : String}
    {m : Message} (hm : m ∈ (table.eraseIf p).lookup key) : m ∈ table.lookup key := by
  rw [Table.lookup_eraseIf] at hm
  exact (Option.mem_filter_iff.mp hm).1

theorem Fades.expired (service : SignalingService) (key : String) (nowMs : ℤ) :
    Fades box service (service.expireMessages config key nowMs) :=
  ⟨mail_kept _ _ _ _, fun _ => slot_kept, rfl⟩

theorem Fades.consumed (service : SignalingService) (key requested : String) :
    Fades box service (service.consumeMessages key requested) :=
  ⟨mail_kept _ _ _ _, fun _ => slot_kept, rfl⟩

theorem Fades.acknowledged (service : SignalingService) (key : String) (deliveryCursor : ℕ)
    (controlOnly : Bool) :
    Fades box service (service.acknowledge key deliveryCursor controlOnly) := by
  refine ⟨?_, fun _ => slot_kept, rfl⟩
  unfold SignalingService.acknowledge SignalingService.mail
  dsimp only
  split
  · exact List.Sublist.refl _
  · exact mail_kept _ _ _ _

theorem Move.carries (hmove : Move config g c c') : Carries box c c' := by
  cases hmove with
  | aside haside => exact carries_traffic haside.traffic
  | counted =>
    refine Fades.carries (Fades.of_alike ?_) ?_ SignalingService.Numbered.counted ?_
    · exact ⟨rfl, rfl, rfl⟩
    · rfl
    · rfl
  | opened session => exact carries_addSession c session
  | advanced hfound hallowed hstopping hclosed =>
    refine carries_adjust c _ fun s hs => ?_
    obtain rfl := Option.some.inj (hs.symm.trans hfound)
    exact ⟨fun _ => hallowed.begun, fun hover => absurd hallowed (hover.not_allowed hclosed)⟩
  | renewed => exact carries_adjust c _ fun _ _ => ⟨id, id⟩
  | emptied hfound hopen hstays =>
    exact IsTrans.trans _ _ _ (carries_forget c _ hfound (SessionState.over_or_not_begun hstays))
      (carries_adjust _ _ fun _ _ => ⟨id, id⟩)
  | stopped hfound => exact carries_stop c hfound
  | closed | abandoned =>
    exact carries_adjust c _ fun _ _ =>
      ⟨fun _ => SessionState.Over.begun (.inr rfl), fun _ => .inr rfl⟩
  | expired key nowMs =>
    refine Fades.carries (Fades.expired c.service key nowMs) ?_ id ?_
    · rfl
    · rfl
  | consumed =>
    refine Fades.carries (Fades.consumed c.service _ _) ?_ id ?_
    · rfl
    · rfl
  | acknowledged =>
    refine Fades.carries (Fades.acknowledged c.service _ _ _) ?_ id ?_
    · rfl
    · rfl
  | queued hadmitted _ hfrom => exact carries_queue c hadmitted hfrom

theorem Moves.carries (hmoves : Moves config g c c') : Carries box c c' := by
  induction hmoves with
  | refl => exact Std.Refl.refl c
  | tail _ hmove ih => exact IsTrans.trans _ _ _ ih hmove.carries

end MineTeleop.Signaling
