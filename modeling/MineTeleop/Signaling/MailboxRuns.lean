import MineTeleop.Signaling.ApprovalRuns
import MineTeleop.Signaling.ExclusiveRuns
import MineTeleop.Signaling.Independence
import MineTeleop.Signaling.MailboxLosses

/-!
# Mailboxes in every run

The law of the mailbox: a message that has been accepted for a participant, and is no control
command, waits until its session is over, it is too old, a poll hands it out, or a connection of the
participant acknowledges it after it has been sent to one.  Acceptance numbers the messages: the
numbers rise through the whole run, and what waits stands in their order.

Proved here, for every configuration:

* `step_handles`: what one step of the machine does to a mailbox and to the connections;
* `Balanced.step`: one step keeps the account of a mailbox;
* `mailboxes_lose_nothing`: so the law holds in every run.
-/

namespace MineTeleop.Signaling

open Documents Programs Tables Runs

variable {config : SignalingServerConfig} {box : Mailbox}

/-! ## One step -/

namespace Turn

/-- The message is accepted for the mailbox. -/
def Accepts (st : Turn) (box : Mailbox) (a : Accepted) : Prop :=
  a ∈ st.output.queued ∧ a.post.recipientKey = box.key

/-- A poll of the mailbox hands the message out. -/
def Hands (st : Turn) (box : Mailbox) (m : Message) : Prop :=
  ∃ request, st.event.2 = .request request ∧ request.Hands box st.output.answer m

/-- A connection of the participant acknowledges the message. -/
def Confirms (st : Turn) (box : Mailbox) (m : Message) : Prop :=
  ∃ id message connection, st.event.2 = .receive id message ∧
    st.before.connections.lookup id = some connection ∧
    connection.Confirms box st.output.answer m

/-- The message waits in the mailbox, or is accepted for it now. -/
def Finds (st : Turn) (box : Mailbox) (m : Message) : Prop :=
  m ∈ st.before.service.mail box ∨ ∃ a, st.Accepts box a ∧ a.message = m

/-- The message is sent to the participant. -/
def Delivers (st : Turn) (box : Mailbox) (m : Message) : Prop :=
  ∃ id sendFails connection deliveryCursor delivered, st.event.2 = .turn id sendFails ∧
    st.before.connections.lookup id = some connection ∧ connection.key = box.key ∧
    st.output.answer = .ok (.delivery deliveryCursor delivered) ∧ m ∈ delivered

end Turn

/-- How often the service looks at the clocks in a step in which messages may be too old. -/
def Station.looks (config : SignalingServerConfig) (station : Station) (occasion : Occasion) : ℕ :=
  match occasion.2 with
  | .request request => ((request.serve config occasion.1).exec (.start station.service)).2.looks
  | .turn id _ =>
    match station.connections.lookup id with
    | none => 0
    | some connection =>
      ((connection.pending config occasion.1).exec (.start station.service)).2.looks
  | _ => 0

/-- The message is too old for the step. -/
def Turn.Expires (config : SignalingServerConfig) (st : Turn) (m : Message) : Prop :=
  Aged config st.event.1 (st.before.looks config st.event) m

/-- How a connection stands after the step. -/
inductive Turn.Stands (st : Turn) (service : SignalingService) (id : String)
    (sent : Connection) : Prop
  | kept (h : st.before.connections.lookup id = some sent)
  | fresh (h : sent.lastDeliveryCursorSent = 0)
  | turned {connection : Connection} {sendFails : Bool} {answer : Answer}
      (hevent : st.event.2 = .turn id sendFails)
      (hfound : st.before.connections.lookup id = some connection)
      (hanswer : st.output.answer = .ok answer)
      (hsends : connection.Sends answer sent service)

/-- What the step does to the mailbox, and to the connections. -/
structure Handles (config : SignalingServerConfig) (box : Mailbox) (st : Turn) (c' : Call) :
    Prop where
  sheds : Sheds box (fun m => st.Expires config m ∨ st.Hands box m ∨ st.Confirms box m)
    (.start st.before.service) c'
  service : c'.service = st.after.service
  queued : c'.queued = st.output.queued
  stands : ∀ id sent, st.after.connections.lookup id = some sent →
    st.Stands c'.service id sent

theorem observe_eq {station station' : Station} {occasion : Occasion} {outcome : Outcome}
    (h : station.step config occasion = (outcome, station')) :
    (Station.machine config).observe station occasion = ⟨station, occasion, outcome, station'⟩ := by
  change (⟨station, occasion, (station.step config occasion).1,
    (station.step config occasion).2⟩ : Turn) = _
  rw [h]

theorem lookup_of_erase {α : Type} {table : Table α} {key key' : String} {value : α}
    (h : AList.lookup key' (AList.erase key table) = some value) :
    table.lookup key' = some value := by
  rw [Table.lookup_erase] at h
  split at h
  · cases h
  · exact h

/-- A turn, by what it sends. -/
theorem turn_handles {station : Station} {w : Circumstances} {id : String} {sendFails : Bool}
    {connection : Connection} (hfound : station.connections.lookup id = some connection) :
    ∃ c', Handles config box ((Station.machine config).observe station (w, .turn id sendFails))
      c' := by
  have hgives := (ensures_result (P := fun result c' =>
    Sheds box (Aged config w c'.looks) (.start station.service) c' ∧ ∀ answer sent,
      result = .ok (answer, sent) → connection.Sends answer sent c'.service)).mp
    ((pending_gives connection _).mono
      (fun _ _ h => ⟨h.1, by rintro _ _ ⟨⟩; exact h.2⟩) fun _ _ h => ⟨h, by rintro _ _ ⟨⟩⟩)
  obtain ⟨hsheds, hsends⟩ := hgives
  have hlooks : station.looks config (w, .turn id sendFails) =
      ((connection.pending config w).exec (.start station.service)).2.looks := by
    simp only [Station.looks, hfound]
  rw [← hlooks] at hsheds
  refine ⟨((connection.pending config w).exec (.start station.service)).2, ?_⟩
  cases hresult : ((connection.pending config w).exec (.start station.service)).1 with
  | error refusal =>
    have hstep : station.step config (w, .turn id sendFails) =
        (.of Prod.fst ((connection.pending config w).exec (.start station.service)),
          ⟨((connection.pending config w).exec (.start station.service)).2.service,
            station.connections.erase id⟩) := by
      simp only [Station.step, hfound, hresult]
    rw [observe_eq hstep]
    exact ⟨hsheds.mono fun _ => .inl, rfl, rfl, fun _ _ h => .kept (lookup_of_erase h)⟩
  | ok result =>
    obtain ⟨answer, sent⟩ := result
    have hsent := hsends answer sent hresult
    by_cases hfails : sendFails = true ∧ answer ≠ .idle
    · have hstep : station.step config (w, .turn id sendFails) =
          ({ Outcome.of Prod.fst ((connection.pending config w).exec (.start station.service)) with
              answer := .ok .idle },
            ⟨((connection.pending config w).exec (.start station.service)).2.service,
              station.connections.erase id⟩) := by
        simp only [Station.step, hfound, hresult, if_pos hfails]
      rw [observe_eq hstep]
      exact ⟨hsheds.mono fun _ => .inl, rfl, rfl,
        fun _ _ h => .kept (lookup_of_erase h)⟩
    · have hstep : station.step config (w, .turn id sendFails) =
          (.of Prod.fst ((connection.pending config w).exec (.start station.service)),
            ⟨((connection.pending config w).exec (.start station.service)).2.service,
              station.connections.insert id sent⟩) := by
        simp only [Station.step, hfound, hresult, if_neg hfails]
      rw [observe_eq hstep]
      refine ⟨hsheds.mono fun _ => .inl, rfl, rfl, fun id' sent' h => ?_⟩
      dsimp only at h
      rw [Table.lookup_insert] at h
      split at h
      · rename_i hid
        obtain rfl := Option.some.inj h
        rw [hid]
        exact .turned rfl hfound (congrArg (Except.map Prod.fst) hresult) hsent
      · exact .kept h

theorem step_handles (box : Mailbox) (station : Station) (occasion : Occasion) :
    ∃ c', Handles config box ((Station.machine config).observe station occasion) c' := by
  obtain ⟨w, action⟩ := occasion
  cases action with
  | request request =>
    have hgives := (ensures_result (P := fun answer c' =>
      Sheds box (fun m => Aged config w c'.looks m ∨ request.Hands box answer m)
        (.start station.service) c')).mp (serve_gives request _)
    refine ⟨_, hgives.mono fun m hm => hm.imp_right fun hm => .inl ?_, rfl, rfl,
      fun _ _ h => .kept h⟩
    obtain ⟨_, _, _, _, pending, hpoll, hkey, hanswer, hm⟩ := hm
    exact ⟨request, rfl, _, _, _, _, pending, hpoll, hkey, congrArg (Except.map id) hanswer, hm⟩
  | reap =>
    have hcleanup : Within (Sheds box Nothing)
        (nowMs w >>= cleanupExpiredConnections config w) :=
      (sheds_aside Aside.nowMs).bind kept_sheds.cleanup
    exact ⟨_, (ensures_state.mp (hcleanup (.start station.service))).mono fun _ => False.elim, rfl,
      rfl, fun _ _ h => .kept h⟩
  | connect id sessionId participant credentials sendOnly controlReceiveOnly =>
    have hadmission : Within (Sheds box Nothing) (Connection.admission config w
        ⟨sessionId, participant, credentials, sendOnly, controlReceiveOnly, 0, 0⟩) :=
      kept_sheds.admission _
    refine ⟨_, (ensures_state.mp (hadmission (.start station.service))).mono fun _ => False.elim,
      rfl, rfl, fun id' sent h => ?_⟩
    change AList.lookup id' (if _ then _ else _ : Table Connection) = some sent at h
    split at h
    · rw [Table.lookup_insert] at h
      split at h
      · obtain rfl := Option.some.inj h
        exact .fresh rfl
      · exact .kept h
    · exact .kept h
  | turn id sendFails =>
    cases hfound : station.connections.lookup id with
    | none =>
      have hstep : station.step config (w, .turn id sendFails) = (.idle, station) := by
        simp only [Station.step, hfound]
      rw [observe_eq hstep]
      exact ⟨.start station.service, Std.Refl.refl _, rfl, rfl, fun _ _ h => .kept h⟩
    | some connection => exact turn_handles hfound
  | receive id message =>
    cases hfound : station.connections.lookup id with
    | none =>
      have hstep : station.step config (w, .receive id message) = (.idle, station) := by
        simp only [Station.step, hfound]
      rw [observe_eq hstep]
      exact ⟨.start station.service, Std.Refl.refl _, rfl, rfl, fun _ _ h => .kept h⟩
    | some connection =>
      have hstep : station.step config (w, .receive id message) =
          (.of (fun answer => answer) ((connection.receive config w message).exec
            (.start station.service)), { station with
              service := ((connection.receive config w message).exec
                (.start station.service)).2.service }) := by
        simp only [Station.step, hfound]
      rw [observe_eq hstep]
      have hgives := (ensures_result (P := fun answer =>
        Sheds box (connection.Confirms box answer) (.start station.service))).mp
        (@receive_gives config w box connection message _)
      refine ⟨_, hgives.mono fun m hm => .inr (.inr ?_), rfl, rfl, fun _ _ h => .kept h⟩
      obtain ⟨hkey, hall, deliveryCursor, count, hanswer, hbounds⟩ := hm
      exact ⟨id, message, connection, rfl, hfound, hkey, hall, deliveryCursor, count,
        congrArg (Except.map fun answer => answer) hanswer, hbounds⟩
  | disconnect id =>
    exact ⟨.start station.service, Std.Refl.refl _, rfl, rfl,
      fun _ _ h => .kept (lookup_of_erase h)⟩

/-! ## The account -/

def Delivered (history : List Turn) (box : Mailbox) (m : Message) : Prop :=
  ∃ st ∈ history, st.Delivers box m

/-- Why a message leaves the mailbox in a step. -/
inductive Leaves (config : SignalingServerConfig) (box : Mailbox) (st : Turn) (past : List Turn)
    (m : Message) : Prop
  | aged (h : st.Expires config m)
  | handed (h : st.Hands box m)
  | confirmed (h : st.Confirms box m) (hsent : Delivered past box m)

/-- What has become of a message that waits no longer. -/
inductive Gone (config : SignalingServerConfig) (box : Mailbox) (history : List Turn)
    (service : SignalingService) (m : Message) : Prop
  | ended (h : service.Over box.sessionId)
  | left {later past : List Turn} {st : Turn} (hsplit : history = later ++ st :: past)
      (hfound : st.Finds box m) (h : Leaves config box st past m)

/-- Messages are numbered in the order in which they are accepted. -/
def Numbered (box : Mailbox) (st : Turn) (past : List Turn) : Prop :=
  ∀ a, st.Accepts box a → ∀ st' ∈ past, ∀ a', Turn.Accepts st' box a' →
    a'.message.deliveryCursor < a.message.deliveryCursor

/-- What the mailbox and the connections of its participant are like after a history. -/
structure Balanced (config : SignalingServerConfig) (box : Mailbox) (history : List Turn)
    (station : Station) : Prop where
  sound : Sound station.service box
  waits : ∀ m, m ∈ station.service.mail box ∨ m ∈ station.service.slot box →
    0 < m.deliveryCursor ∧ ∃ st ∈ history, ∃ a, st.Accepts box a ∧ a.message = m
  numbers : ∀ st ∈ history, ∀ a, st.Accepts box a → station.service.Over box.sessionId ∨
    a.message.deliveryCursor ≤ station.service.cursor box
  rising : Always (Numbered box) history
  latest : ∀ m ∈ station.service.slot box, ∀ st ∈ history, ∀ a, st.Accepts box a →
    a.post.Control → a.message.deliveryCursor ≤ m.deliveryCursor
  kept : ∀ st ∈ history, ∀ a, st.Accepts box a → ¬a.post.Control →
    a.message ∈ station.service.mail box ∨ Gone config box history station.service a.message
  sent : ∀ id connection, station.connections.lookup id = some connection →
    connection.key = box.key → connection.controlReceiveOnly = false →
    (station.service.Over box.sessionId ∨
      connection.lastDeliveryCursorSent ≤ station.service.cursor box) ∧
    ∀ m ∈ station.service.mail box, m.deliveryCursor ≤ connection.lastDeliveryCursorSent →
      Delivered history box m

section
variable {history : List Turn} {station : Station} {st : Turn} {c' : Call} {m : Message}

theorem Delivered.later (h : Delivered history box m) : Delivered (st :: history) box m := by
  obtain ⟨st', hst', hdelivers⟩ := h
  exact ⟨st', List.mem_cons_of_mem _ hst', hdelivers⟩

theorem Gone.later {service service' : SignalingService}
    (hover : service.Over box.sessionId → service'.Over box.sessionId)
    (h : Gone config box history service m) : Gone config box (st :: history) service' m := by
  cases h with
  | ended h => exact .ended (hover h)
  | left hsplit hfound h =>
    rw [hsplit]
    exact .left List.cons_append.symm hfound h

/-- What a step accounts for either waits or is gone. -/
theorem Gone.of_accounted (hfound : st.Finds box m)
    (h : Accounted box (fun m => st.Expires config m ∨ st.Hands box m ∨ st.Confirms box m) c' m)
    (hsent : st.Confirms box m → Delivered history box m) :
    m ∈ c'.service.mail box ∨ Gone config box (st :: history) c'.service m := by
  have hleft : Leaves config box st history m → Gone config box (st :: history) c'.service m :=
    .left (List.nil_append _).symm hfound
  rcases h with hm | hover | haged | hhands | hconfirms
  · exact .inl hm
  · exact .inr (.ended hover)
  · exact .inr (hleft (.aged haged))
  · exact .inr (hleft (.handed hhands))
  · exact .inr (hleft (.confirmed hconfirms (hsent hconfirms)))

namespace Handles

theorem rises (h : Handles config box st c') (honward : Onward box (.start st.before.service) c')
    {a : Accepted} (ha : st.Accepts box a) :
    Rises box (.start st.before.service) c' a.message := by
  rcases honward.rises a (h.queued ▸ ha.1) with hnone | hrises
  · exact absurd hnone List.not_mem_nil
  · exact hrises ha.2

theorem entered (h : Handles config box st c') (hm : Enters box (.start st.before.service) c' m) :
    0 < m.deliveryCursor ∧ ∃ st' ∈ st :: history, ∃ a, Turn.Accepts st' box a ∧ a.message = m := by
  obtain ⟨-, hcursor, a, ha, hmessage, hkey⟩ := hm
  exact ⟨Nat.zero_lt_of_lt hcursor, st, List.mem_cons_self, a, ⟨h.queued ▸ ha, hkey⟩, hmessage⟩

end Handles

namespace Balanced

/-- A connection that has acknowledged a message has sent it. -/
theorem confirmed (h : Balanced config box history st.before) (hm : m ∈ st.before.service.mail box)
    (hconfirms : st.Confirms box m) : Delivered history box m := by
  obtain ⟨id, _, connection, -, hfound, hkey, hall, _, _, -, hle, hsent⟩ := hconfirms
  exact (h.sent id connection hfound hkey hall).2 m hm (hle.trans hsent)

/-- What is accepted in a step is not acknowledged in it. -/
theorem accepted (h : Balanced config box history st.before)
    (hrises : Rises box (.start st.before.service) c' m) : ¬st.Confirms box m := by
  rintro ⟨id, _, connection, -, hfound, hkey, hall, _, _, -, hle, hsent⟩
  have hbound := (h.sent id connection hfound hkey hall).1.resolve_left hrises.open_
  have habove : st.before.service.cursor box < m.deliveryCursor := hrises.above
  omega

theorem sent_kept (h : Balanced config box history st.before)
    (honward : Onward box (.start st.before.service) c') {id : String} {connection : Connection}
    (hfound : st.before.connections.lookup id = some connection) (hkey : connection.key = box.key)
    (hall : connection.controlReceiveOnly = false) :
    (c'.service.Over box.sessionId ∨
      connection.lastDeliveryCursorSent ≤ c'.service.cursor box) ∧
    ∀ m ∈ c'.service.mail box, m.deliveryCursor ≤ connection.lastDeliveryCursorSent →
      Delivered (st :: history) box m := by
  obtain ⟨hbound, hdelivered⟩ := h.sent id connection hfound hkey hall
  refine ⟨?_, fun m hm hle => ?_⟩
  · rcases hbound with hover | hbound
    · exact .inl (honward.ended hover)
    · exact honward.cursor.imp_right hbound.trans
  · rcases honward.mail m hm with hm | hm
    · exact (hdelivered m hm hle).later
    · have hbound := hbound.resolve_left hm.open_
      have habove : st.before.service.cursor box < m.deliveryCursor := hm.cursor
      omega

theorem step (h : Balanced config box history station) (occasion : Occasion) :
    Balanced config box ((Station.machine config).observe station occasion :: history)
      (station.step config occasion).2 := by
  obtain ⟨c', hhandles⟩ := @step_handles config box station occasion
  have hservice : c'.service = (station.step config occasion).2.service := hhandles.service
  obtain ⟨hsound, honward⟩ := hhandles.sheds.carries h.sound
  have hwaits : ∀ m, m ∈ c'.service.mail box ∨ m ∈ c'.service.slot box → 0 < m.deliveryCursor ∧
      ∃ st ∈ (Station.machine config).observe station occasion :: history, ∃ a,
        Turn.Accepts st box a ∧ a.message = m := by
    intro m hm
    rcases hm.imp (honward.mail m) (honward.slot m) with (hm | hm) | (hm | hm)
    · obtain ⟨hpos, st, hst, haccepted⟩ := h.waits m (.inl hm)
      exact ⟨hpos, st, List.mem_cons_of_mem _ hst, haccepted⟩
    · exact hhandles.entered hm
    · obtain ⟨hpos, st, hst, haccepted⟩ := h.waits m (.inr hm)
      exact ⟨hpos, st, List.mem_cons_of_mem _ hst, haccepted⟩
    · exact hhandles.entered hm
  constructor
  case sound => exact hservice ▸ hsound
  case waits => exact hservice ▸ hwaits
  case numbers =>
    rw [← hservice]
    intro st hst a ha
    rcases List.mem_cons.mp hst with rfl | hst
    · exact (hhandles.rises honward ha).below
    · rcases h.numbers st hst a ha with hover | hle
      · exact .inl (honward.ended hover)
      · exact honward.cursor.imp_right hle.trans
  case rising =>
    refine ⟨fun a ha st hst a' ha' => ?_, h.rising⟩
    have hrises := hhandles.rises honward ha
    exact lt_of_le_of_lt ((h.numbers st hst a' ha').resolve_left hrises.open_) hrises.above
  case latest =>
    rw [← hservice]
    intro m hm st hst a ha hcontrol
    rcases List.mem_cons.mp hst with rfl | hst
    · rcases honward.newest a (hhandles.queued ▸ ha.1) with hnone | hnewest
      · exact absurd hnone List.not_mem_nil
      · exact hnewest ha.2 hcontrol m hm
    · rcases honward.slot m hm with hm | hm
      · exact h.latest m hm st hst a ha hcontrol
      · exact ((h.numbers st hst a ha).resolve_left hm.open_).trans hm.cursor.le
  case kept =>
    rw [← hservice]
    intro st hst a ha hcontrol
    rcases List.mem_cons.mp hst with rfl | hst
    · have hrises := hhandles.rises honward ha
      rcases hhandles.sheds.accepts h.sound a (hhandles.queued ▸ ha.1) with hnone | haccounted
      · exact absurd hnone List.not_mem_nil
      · exact Gone.of_accounted (.inr ⟨a, ha, rfl⟩) (haccounted ha.2 hcontrol)
          fun hconfirms => absurd hconfirms (Balanced.accepted h hrises)
    · rcases h.kept st hst a ha hcontrol with hm | hgone
      · exact Gone.of_accounted (.inl hm) (hhandles.sheds.waits h.sound _ hm)
          (Balanced.confirmed h hm)
      · exact .inr (hgone.later honward.ended)
  case sent =>
    rw [← hservice]
    intro id sent hfound hkey hall
    cases hhandles.stands id sent hfound with
    | kept hbefore => exact Balanced.sent_kept h honward hbefore hkey hall
    | fresh hzero =>
      rw [hzero]
      refine ⟨.inr (Nat.zero_le _), fun m hm hle => ?_⟩
      have hpos := (hwaits m (.inl hm)).1
      omega
    | @turned connection sendFails answer hevent hbefore hanswer hsends =>
      rcases hsends with rfl | ⟨delivered, last, sentAt, hlast, rfl, rfl, hdelivered⟩
      · exact Balanced.sent_kept h honward hbefore hkey hall
      have hkey : connection.key = box.key := hkey
      have hall : connection.controlReceiveOnly = false := hall
      have hpending : delivered = c'.service.pending connection.key "" := by
        rw [hdelivered, hall]
        rfl
      refine ⟨?_, fun m hm _ => ?_⟩
      · have hle : last.deliveryCursor ≤ c'.service.cursor box := by
          rcases of_mem_pending hkey (hpending ▸ hlast) with hm | hm
          · exact hsound.counted last hm
          · exact (hsound.slot last hm).1
        exact (Balanced.sent_kept h honward hbefore hkey hall).1.imp_right fun hbound =>
          max_le hbound hle
      · refine ⟨_, List.mem_cons_self, id, sendFails, connection, _, delivered, hevent, hbefore,
          hkey, hanswer, ?_⟩
        rw [hpending]
        exact mem_pending hkey hm (.inl rfl)

theorem init : Balanced config box [] Station.init where
  sound := Bare.sound ⟨rfl, rfl, rfl⟩ fun _ _ hfound => by cases hfound
  waits m hm := by
    rcases hm with hm | hm
    · exact absurd hm List.not_mem_nil
    · exact absurd hm (Option.not_mem_none m)
  numbers _ hst := absurd hst List.not_mem_nil
  rising := trivial
  latest _ hm := absurd hm (Option.not_mem_none _)
  kept _ hst := absurd hst List.not_mem_nil
  sent id connection hfound := by cases hfound

end Balanced

end

/-- No message is lost, none is invented, all stand in the order of their acceptance, and the
control command that waits is the latest. -/
structure MailboxLaw (config : SignalingServerConfig) (box : Mailbox) (history : List Turn)
    (service : SignalingService) : Prop where
  ordered : (service.mail box).Pairwise fun m m' => m.deliveryCursor < m'.deliveryCursor
  waits : ∀ m, m ∈ service.mail box ∨ m ∈ service.slot box →
    ∃ st ∈ history, ∃ a, st.Accepts box a ∧ a.message = m
  rising : Always (Numbered box) history
  latest : ∀ m ∈ service.slot box, ∀ st ∈ history, ∀ a, st.Accepts box a → a.post.Control →
    a.message.deliveryCursor ≤ m.deliveryCursor
  kept : ∀ st ∈ history, ∀ a, st.Accepts box a → ¬a.post.Control →
    a.message ∈ service.mail box ∨ Gone config box history service a.message

theorem mailboxes_lose_nothing (box : Mailbox) {history : History Station Occasion Outcome}
    {station : Station} (hrun : Run (Station.machine config) history station) :
    MailboxLaw config box history station.service := by
  have hbalanced : Balanced config box history station :=
    Run.link (C := fun _ => True) (R := Balanced config box) Balanced.init
      (fun _ _ occasion _ h _ => h.step occasion) hrun (steps_true history)
  exact ⟨hbalanced.sound.rising, fun m hm => (hbalanced.waits m hm).2, hbalanced.rising,
    hbalanced.latest, hbalanced.kept⟩

/-- The driver has sent a message to the vehicle. -/
def postedMessage : List Occasion :=
  exampleBegin ++ [(smoothly 1003 "four", .request (exampleTelemetry "truck" 1))]

theorem mailboxes_lose_nothing_posted :
    (((Station.machine exampleConfig).play postedMessage).2.service.mail ⟨1, "truck"⟩).length = 1 ∧
    MailboxLaw exampleConfig ⟨1, "truck"⟩ ((Station.machine exampleConfig).play postedMessage).1
      ((Station.machine exampleConfig).play postedMessage).2.service :=
  ⟨by decide +kernel, mailboxes_lose_nothing _ (.play _ _)⟩

end MineTeleop.Signaling
