import Mathlib.Data.List.MinMax
import MineTeleop.Media.Runtime
import MineTeleop.Service.Wire

/-!
# Envelopes of control messages

The signaling server delivers control messages in batches.  The receiver reads every entry, selects
the newest valid ESTOP or else the newest command, hands it on unless it is an ordinary command from
before the last failure of the transport, and acknowledges the batch.

Proved here, for every document:

* `fromJson_entry`: what is handed on is read again as the message that was selected;
* `scanned_batch`: the scan keeps the newest entry, the newest ESTOP, and whether an entry is
  malformed;
* `batchLaw_iff`: a batch is handled by the law exactly when the newest ESTOP is stamped with a
  number, or not at all;
* `envelope_iff`: the same of every run of the receiver;
* `envelope_fails`: a valid ESTOP that is dropped for its stamp.
-/

namespace MineTeleop.Media

open Documents (Json)
open Runs
open Service

/-! ## The entries of a batch -/

/-- An entry that has passed its checks. -/
structure Entry where
  message : Json
  cursor : ℕ
  payload : Json
  control : NativeControlMessage

def readEntry (deliveryCursor : ℕ) (message : Json) : Except String Entry := do
  check (message.isObject = true) "unexpected message type"
  let type ← message.value "type" Json.getString ""
  check (type = "control_command") "unexpected message type"
  let cursor ← message.field "delivery_cursor" Json.getUint64
  check (cursor ≠ 0 ∧ cursor ≤ deliveryCursor) "invalid message delivery cursor"
  let payload ← message.member "payload"
  check (payload.isObject = true) "control payload must be an object"
  let command ← ControlCommand.fromJson payload
  let intentSeq ← payload.field "intent_seq" Json.getUint64
  check (intentSeq ≠ 0) "intent_seq must be positive"
  match payload.find? "intent_fresh" with
  | some (.boolean intentFresh) => .ok ⟨message, cursor, payload, ⟨command, intentSeq, intentFresh⟩⟩
  | _ => .error "intent_fresh must be a boolean"

/-- How `handle_control_message` reads a payload. -/
def NativeControlMessage.fromJson (payload : Json) : Except String NativeControlMessage := do
  let command ← ControlCommand.fromJson payload
  let intentSeq ← payload.value "intent_seq" Json.getUint64 0
  let intentFresh ← payload.value "intent_fresh" Json.getBoolean false
  .ok ⟨command, intentSeq, intentFresh⟩

/-! ## The selection -/

structure Selection where
  newest : Option Json := none
  newestEstop : Option Json := none
  newestCursor : ℕ := 0
  newestEstopCursor : ℕ := 0
  firstProtocolIssue : String := ""

def Selection.keepNewest (s : Selection) (entry : Entry) : Selection :=
  if s.newestCursor ≤ entry.cursor then
    { s with
      newest := some entry.message
      newestCursor := entry.cursor }
  else s

def Selection.keepNewestEstop (s : Selection) (entry : Entry) : Selection :=
  if entry.control.command.estop = true ∧ s.newestEstopCursor ≤ entry.cursor then
    { s with
      newestEstop := some entry.message
      newestEstopCursor := entry.cursor }
  else s

def Selection.take (deliveryCursor : ℕ) (s : Selection) (message : Json) : Selection :=
  match readEntry deliveryCursor message with
  | .ok entry => (s.keepNewest entry).keepNewestEstop entry
  | .error issue =>
    if s.firstProtocolIssue = "" then { s with firstProtocolIssue := issue } else s

/-! ## The delivery -/

structure DeliveryAck where
  deliveryCursor : ℕ
  traceSessionId : String
  seq : ℕ
  intentSeq : ℕ
  deriving DecidableEq

/-- What comes of an envelope: the payloads handed to `handle_control_message`, the acknowledgements
handed to the socket, and the exception. -/
structure Handling where
  forwarded : List Json := []
  acknowledged : List DeliveryAck := []
  error : Option String := none

/-- The payload is handed on, or discarded as one from before the cutoff; zero is no cutoff. -/
def forward (cutoffMs : ℤ) (selected : Json) : Except String (List Json) := do
  let payload ← selected.member "payload"
  let sentAtMs ← payload.field "sent_at_utc_ms" Json.getInt64
  let estop ← payload.value "estop" Json.getBoolean false
  if estop = false ∧ 0 < cutoffMs ∧ sentAtMs ≤ cutoffMs then .ok []
  else
    -- The context of the trace is read before the message is handled.
    let _ ← selected.value "delivery_cursor" Json.getUint64 0
    let _ ← selected.value "queued_at_utc_ms" Json.getInt64 0
    .ok [payload]

def deliveryAck (deliveryCursor : ℕ) (selected : Json) : Except String DeliveryAck := do
  let payload ← selected.member "payload"
  let sessionId ← payload.value "session_id" Json.getString ""
  let seq ← payload.value "seq" Json.getUint64 0
  let intentSeq ← payload.value "intent_seq" Json.getUint64 0
  .ok ⟨deliveryCursor, sessionId, seq, intentSeq⟩

def Selection.siblingError (s : Selection) : Option String :=
  if s.firstProtocolIssue = "" then none
  else some ("native control WebSocket contained an invalid sibling message: " ++
    s.firstProtocolIssue)

/-- `sendError` is what the socket throws, if it does. -/
def Selection.deliver (s : Selection) (cutoffMs : ℤ) (sendError : Option String)
    (deliveryCursor : ℕ) : Handling :=
  match s.newestEstop.or s.newest with
  | none =>
    { error := some (if s.firstProtocolIssue = "" then
        "native control WebSocket contained no valid control command"
      else "invalid native control WebSocket message: " ++ s.firstProtocolIssue) }
  | some selected =>
    if s.firstProtocolIssue ≠ "" ∧ s.newestEstop.isNone = true then { error := s.siblingError }
    else
      match forward cutoffMs selected with
      | .error what => { error := some what }
      | .ok forwarded =>
        match deliveryAck deliveryCursor selected with
        | .error what => { forwarded := forwarded, error := some what }
        | .ok ack =>
          { forwarded := forwarded
            acknowledged := [ack]
            error := sendError.or s.siblingError }

/-! ## The envelope -/

/-- The cursor and the messages of a batch; an acknowledgement has none. -/
def openEnvelope (envelope : Json) : Except String (Option (ℕ × List Json)) := do
  check (envelope.isObject = true) "native control WebSocket envelope must be an object"
  if envelope.contains "error" then
    let what ← envelope.value "error" Json.getString "native control WebSocket was rejected"
    .error what
  else
    let event ← envelope.value "event" Json.getString ""
    if event = "signaling_delivery_acknowledged" then .ok none
    else
      check (event = "signaling_messages") "native control WebSocket returned an unexpected event"
      let deliveryCursor ← envelope.field "delivery_cursor" Json.getUint64
      check (deliveryCursor ≠ 0) "native control WebSocket delivery cursor must be positive"
      match ← envelope.member "messages" with
      | .array (message :: messages) => .ok (some (deliveryCursor, message :: messages))
      | _ => .error "native control WebSocket messages must be a non-empty array"

def handleNativeControlWebsocketEnvelope (cutoffMs : ℤ) (sendError : Option String)
    (envelope : Json) : Handling :=
  match openEnvelope envelope with
  | .error what => { error := some what }
  | .ok none => {}
  | .ok (some (deliveryCursor, messages)) =>
    (messages.foldl (Selection.take deliveryCursor) {}).deliver cutoffMs sendError deliveryCursor

/-! ## The receiver as a machine -/

inductive DeliveryEvent where
  | transportStarted (nowMs : ℤ)
  /-- An envelope, and when its exception is noted, if it has one and the loop is not stopping. -/
  | envelope (document : Json) (sendError : Option String) (nowMs : ℤ) (stopping : Bool)
  | transportFailed (nowMs : ℤ)

structure NativeControlReceiver where
  commandFreshnessCutoffAtMs : ℤ := 0

def NativeControlReceiver.respond (r : NativeControlReceiver) :
    DeliveryEvent → Handling × NativeControlReceiver
  | .transportStarted nowMs => ({}, ⟨nowMs⟩)
  | .envelope document sendError nowMs stopping =>
    let handling :=
      handleNativeControlWebsocketEnvelope r.commandFreshnessCutoffAtMs sendError document
    (handling, if handling.error.isSome = true ∧ stopping = false then ⟨nowMs⟩ else r)
  | .transportFailed nowMs => ({}, ⟨nowMs⟩)

def receiver : Machine NativeControlReceiver DeliveryEvent Handling :=
  ⟨{}, NativeControlReceiver.respond⟩

/-! ## The law -/

def entries (deliveryCursor : ℕ) (messages : List Json) : List Entry :=
  messages.filterMap fun message => (readEntry deliveryCursor message).toOption

def estops (deliveryCursor : ℕ) (messages : List Json) : List Entry :=
  (entries deliveryCursor messages).filter (·.control.command.estop)

/-- The entry of the highest cursor, of several such the last. -/
def newest (entries : List Entry) : Option Entry := entries.reverse.argmax Entry.cursor

/-- How a batch is to be handled. -/
structure BatchLaw (cutoffMs : ℤ) (deliveryCursor : ℕ) (messages : List Json)
    (handling : Handling) : Prop where
  estop : estops deliveryCursor messages ≠ [] →
    ∃ entry ∈ newest (estops deliveryCursor messages), handling.forwarded = [entry.payload]
  ordinary : ∀ payload ∈ handling.forwarded,
    payload.value "estop" Json.getBoolean false = .ok false →
      (∀ message ∈ messages, ∃ entry, readEntry deliveryCursor message = .ok entry) ∧
      ∃ entry ∈ newest (entries deliveryCursor messages), entry.payload = payload ∧
        (0 < cutoffMs → cutoffMs < entry.control.command.sentAtUtcMs)
  single : handling.forwarded.length ≤ 1
  acknowledged : handling.forwarded ≠ [] ∨ handling.error = none →
    handling.acknowledged.map DeliveryAck.deliveryCursor = [deliveryCursor]

/-- The batch of an envelope that is one. -/
def batch? (document : Json) : Option (ℕ × List Json) :=
  match openEnvelope document with
  | .ok batch => batch
  | .error _ => none

/-- The batch that an event delivers. -/
def DeliveryEvent.batch? : DeliveryEvent → Option (ℕ × List Json)
  | .envelope document _ _ _ => Media.batch? document
  | _ => none

/-- When the transport last started or failed, zero if it never did. -/
def freshnessCutoff : History NativeControlReceiver DeliveryEvent Handling → ℤ
  | [] => 0
  | st :: past =>
    match st.event with
    | .transportStarted nowMs => nowMs
    | .transportFailed nowMs => nowMs
    | .envelope _ _ nowMs stopping =>
      if st.output.error.isSome = true ∧ stopping = false then nowMs else freshnessCutoff past

def EnvelopeLaw (st : Step NativeControlReceiver DeliveryEvent Handling)
    (past : History NativeControlReceiver DeliveryEvent Handling) : Prop :=
  ∀ batch ∈ st.event.batch?, BatchLaw (freshnessCutoff past) batch.1 batch.2 st.output

/-- The newest ESTOP is stamped with a number, or not at all. -/
def Stamped (deliveryCursor : ℕ) (messages : List Json) : Prop :=
  ∀ entry ∈ newest (estops deliveryCursor messages),
    (entry.message.value "queued_at_utc_ms" Json.getInt64 0).toOption.isSome = true

instance (deliveryCursor : ℕ) (messages : List Json) : Decidable (Stamped deliveryCursor messages) :=
  inferInstanceAs (Decidable (∀ _ ∈ _, _))

def EstopStamped (st : Step NativeControlReceiver DeliveryEvent Handling) : Prop :=
  ∀ batch ∈ st.event.batch?, Stamped batch.1 batch.2

instance (st : Step NativeControlReceiver DeliveryEvent Handling) : Decidable (EstopStamped st) :=
  inferInstanceAs (Decidable (∀ _ ∈ _, _))

/-! ## The newest entry -/

theorem newest_concat (es : List Entry) (e : Entry) :
    newest (es ++ [e]) = match newest es with
      | none => some e
      | some best => if best.cursor ≤ e.cursor then some e else some best := by
  unfold newest
  rw [List.reverse_append, List.reverse_singleton, List.singleton_append, List.argmax_cons]
  cases es.reverse.argmax Entry.cursor with
  | none => rfl
  | some best =>
    by_cases h : best.cursor ≤ e.cursor
    · simp only [h, not_lt.mpr h, if_true, if_false]
    · simp only [h, not_le.mp h, if_true, if_false]

theorem newest_mem {es : List Entry} {e : Entry} (h : e ∈ newest es) :
    e ∈ es ∧ ∀ e' ∈ es, e'.cursor ≤ e.cursor :=
  ⟨List.mem_reverse.mp (List.argmax_mem h),
    fun _ he' => List.le_of_mem_argmax (List.mem_reverse.mpr he') h⟩

theorem newest_eq_none {es : List Entry} : newest es = none ↔ es = [] := by
  unfold newest
  rw [List.argmax_eq_none, List.reverse_eq_nil_iff]

/-! ## What an entry is read from -/

structure Entry.ReadFrom (e : Entry) (message : Json) : Prop where
  same : e.message = message
  cursor : message.field "delivery_cursor" Json.getUint64 = .ok e.cursor
  payload : message.member "payload" = .ok e.payload
  command : ControlCommand.fromJson e.payload = .ok e.control.command
  intentSeq : e.payload.field "intent_seq" Json.getUint64 = .ok e.control.intentSeq
  intentFresh : e.payload.find? "intent_fresh" = some (.boolean e.control.intentFresh)

theorem readEntry_ok {deliveryCursor : ℕ} {message : Json} {e : Entry}
    (h : readEntry deliveryCursor message = .ok e) : e.ReadFrom message := by
  unfold readEntry at h
  obtain ⟨_, -, h⟩ := bind_ok h
  obtain ⟨type, -, h⟩ := bind_ok h
  obtain ⟨_, -, h⟩ := bind_ok h
  obtain ⟨cursor, hcursor, h⟩ := bind_ok h
  obtain ⟨_, -, h⟩ := bind_ok h
  obtain ⟨payload, hpayload, h⟩ := bind_ok h
  obtain ⟨_, -, h⟩ := bind_ok h
  obtain ⟨command, hcommand, h⟩ := bind_ok h
  obtain ⟨intentSeq, hintent, h⟩ := bind_ok h
  obtain ⟨_, -, h⟩ := bind_ok h
  split at h
  · rename_i hfresh
    obtain rfl := Except.ok.inj h
    exact ⟨rfl, hcursor, hpayload, hcommand, hintent, hfresh⟩
  · cases h

/-- The payload is read again as the message it was selected for. -/
theorem fromJson_entry {e : Entry} {message : Json} (h : e.ReadFrom message) :
    NativeControlMessage.fromJson e.payload = .ok e.control := by
  unfold NativeControlMessage.fromJson
  rw [bind_of_ok h.command, bind_of_ok (Json.value_of_field 0 h.intentSeq),
    Json.value_of_find false h.intentFresh]
  rfl

/-- The entry is handed on, unless it is stale or its stamp cannot be read. -/
theorem forward_entry {e : Entry} {message : Json} (h : e.ReadFrom message) (cutoffMs : ℤ) :
    forward cutoffMs message =
      if e.control.command.estop = false ∧ 0 < cutoffMs ∧
        e.control.command.sentAtUtcMs ≤ cutoffMs then .ok []
      else message.value "queued_at_utc_ms" Json.getInt64 0 >>= fun _ => .ok [e.payload] := by
  obtain ⟨hmetadata, hestop, -⟩ := controlCommand_fromJson_ok h.command
  unfold forward
  rw [bind_of_ok h.payload, bind_of_ok hmetadata.sentAtUtcMs, bind_of_ok hestop]
  split
  · rfl
  · exact bind_of_ok (Json.value_of_field 0 h.cursor) _

theorem deliveryAck_entry {e : Entry} {message : Json} (h : e.ReadFrom message)
    (deliveryCursor : ℕ) :
    deliveryAck deliveryCursor message = .ok ⟨deliveryCursor, e.control.command.sessionId,
      e.control.command.seq, e.control.intentSeq⟩ := by
  obtain ⟨hmetadata, -, -⟩ := controlCommand_fromJson_ok h.command
  unfold deliveryAck
  rw [bind_of_ok h.payload, bind_of_ok (Json.value_of_field "" hmetadata.sessionId),
    bind_of_ok (Json.value_of_field 0 hmetadata.seq),
    bind_of_ok (Json.value_of_field 0 h.intentSeq)]

theorem readEntry_speaks (deliveryCursor : ℕ) (message : Json) :
    Documents.Speaks (readEntry deliveryCursor message) := by
  refine (check_speaks _ (by decide)).bind fun _ => ?_
  refine (message.value_speaks _ "" Json.getString_speaks).bind fun type => ?_
  refine (check_speaks _ (by decide)).bind fun _ => ?_
  refine (message.field_speaks _ Json.getUint64_speaks).bind fun cursor => ?_
  refine (check_speaks _ (by decide)).bind fun _ => ?_
  refine (message.member_speaks _).bind fun payload => ?_
  refine (check_speaks _ (by decide)).bind fun _ => ?_
  refine (controlCommand_fromJson_speaks payload).bind fun command => ?_
  refine (payload.field_speaks _ Json.getUint64_speaks).bind fun intentSeq => ?_
  refine (check_speaks _ (by decide)).bind fun _ => ?_
  split
  · exact Documents.speaks_ok _
  · exact Documents.speaks_error (by decide)

/-! ## The scan -/

/-- What a scan keeps of the newest entry. -/
def kept : Option Entry → Option Json × ℕ
  | none => (none, 0)
  | some entry => (some entry.message, entry.cursor)

theorem kept_newest_concat (es : List Entry) (e : Entry) :
    kept (newest (es ++ [e])) =
      if (kept (newest es)).2 ≤ e.cursor then (some e.message, e.cursor) else kept (newest es) := by
  rw [newest_concat]
  cases newest es with
  | none => rfl
  | some best =>
    by_cases h : best.cursor ≤ e.cursor
    · simp only [kept, h, if_true]
    · simp only [kept, h, if_false]

structure Scanned (deliveryCursor : ℕ) (messages : List Json) (s : Selection) : Prop where
  newest : (s.newest, s.newestCursor) = kept (newest (entries deliveryCursor messages))
  newestEstop : (s.newestEstop, s.newestEstopCursor) =
    kept (Media.newest (estops deliveryCursor messages))
  issue : s.firstProtocolIssue = "" ↔
    ∀ message ∈ messages, ∃ entry, readEntry deliveryCursor message = .ok entry

section
variable {deliveryCursor : ℕ} {messages : List Json} {message : Json} {s : Selection}

theorem entries_valid {e : Entry} (he : readEntry deliveryCursor message = .ok e) :
    entries deliveryCursor (messages ++ [message]) = entries deliveryCursor messages ++ [e] := by
  simp [entries, List.filterMap_append, he, Except.toOption]

theorem entries_malformed {what : String} (he : readEntry deliveryCursor message = .error what) :
    entries deliveryCursor (messages ++ [message]) = entries deliveryCursor messages := by
  simp [entries, List.filterMap_append, he, Except.toOption]

theorem estops_valid {e : Entry} (he : readEntry deliveryCursor message = .ok e) :
    estops deliveryCursor (messages ++ [message]) =
      if e.control.command.estop then estops deliveryCursor messages ++ [e]
      else estops deliveryCursor messages := by
  unfold estops
  rw [entries_valid he, List.filter_append]
  cases hestop : e.control.command.estop <;> simp [hestop]

theorem keepNewest_fields (s : Selection) (e : Entry) :
    ((s.keepNewest e).newest, (s.keepNewest e).newestCursor) =
        (if s.newestCursor ≤ e.cursor then (some e.message, e.cursor)
        else (s.newest, s.newestCursor)) ∧
      (s.keepNewest e).newestEstop = s.newestEstop ∧
      (s.keepNewest e).newestEstopCursor = s.newestEstopCursor ∧
      (s.keepNewest e).firstProtocolIssue = s.firstProtocolIssue := by
  unfold Selection.keepNewest
  split <;> exact ⟨rfl, rfl, rfl, rfl⟩

theorem keepNewestEstop_fields (s : Selection) (e : Entry) :
    ((s.keepNewestEstop e).newestEstop, (s.keepNewestEstop e).newestEstopCursor) =
        (if e.control.command.estop = true ∧ s.newestEstopCursor ≤ e.cursor then
          (some e.message, e.cursor)
        else (s.newestEstop, s.newestEstopCursor)) ∧
      (s.keepNewestEstop e).newest = s.newest ∧
      (s.keepNewestEstop e).newestCursor = s.newestCursor ∧
      (s.keepNewestEstop e).firstProtocolIssue = s.firstProtocolIssue := by
  unfold Selection.keepNewestEstop
  split <;> exact ⟨rfl, rfl, rfl, rfl⟩

theorem scanned_valid {e : Entry} (h : Scanned deliveryCursor messages s)
    (he : readEntry deliveryCursor message = .ok e) :
    Scanned deliveryCursor (messages ++ [message]) ((s.keepNewest e).keepNewestEstop e) := by
  obtain ⟨hnewest, hsame, hsameCursor, hissue⟩ := keepNewest_fields s e
  obtain ⟨hestop, hkept, hkeptCursor, hkeptIssue⟩ := keepNewestEstop_fields (s.keepNewest e) e
  refine ⟨?_, ?_, ?_⟩
  · rw [hkept, hkeptCursor, hnewest, entries_valid he, kept_newest_concat, ← h.newest]
  · rw [hestop, hsame, hsameCursor, estops_valid he]
    cases e.control.command.estop with
    | false =>
      rw [if_neg fun hno => nomatch hno.1]
      exact h.newestEstop
    | true =>
      simp only [true_and, if_true]
      rw [kept_newest_concat, ← h.newestEstop]
  · rw [hkeptIssue, hissue, h.issue, List.forall_mem_append]
    exact ⟨fun hall => ⟨hall, fun m hm => ⟨e, List.mem_singleton.mp hm ▸ he⟩⟩, fun hall => hall.1⟩

theorem scanned_malformed {what : String} (h : Scanned deliveryCursor messages s)
    (he : readEntry deliveryCursor message = .error what) :
    Scanned deliveryCursor (messages ++ [message])
      (if s.firstProtocolIssue = "" then { s with firstProtocolIssue := what } else s) := by
  have hentries : entries deliveryCursor (messages ++ [message]) =
      entries deliveryCursor messages := entries_malformed he
  have hspeaks : what ≠ "" := readEntry_speaks _ _ _ he
  have hbad : ¬∀ m ∈ messages ++ [message], ∃ e, readEntry deliveryCursor m = .ok e := by
    intro hall
    obtain ⟨e, hok⟩ := hall message (List.mem_append_right _ (List.mem_singleton_self message))
    rw [he] at hok
    cases hok
  split
  · refine ⟨?_, ?_, iff_of_false hspeaks hbad⟩
    · rw [hentries]
      exact h.newest
    · rw [estops, hentries]
      exact h.newestEstop
  · rename_i hissue
    refine ⟨?_, ?_, iff_of_false hissue hbad⟩
    · rw [hentries]
      exact h.newest
    · rw [estops, hentries]
      exact h.newestEstop

theorem scanned_take (h : Scanned deliveryCursor messages s) (message : Json) :
    Scanned deliveryCursor (messages ++ [message]) (s.take deliveryCursor message) := by
  unfold Selection.take
  split
  · exact scanned_valid h ‹_›
  · exact scanned_malformed h ‹_›

/-- The scan of a whole batch. -/
theorem scanned_batch (deliveryCursor : ℕ) (messages : List Json) :
    Scanned deliveryCursor messages (messages.foldl (Selection.take deliveryCursor) {}) := by
  induction messages using List.reverseRecOn with
  | nil => exact ⟨rfl, rfl, by simp⟩
  | append_singleton messages message ih =>
    rw [List.foldl_append]
    exact scanned_take ih message

end

/-! ## The delivery of a batch -/

section
variable {deliveryCursor : ℕ} {messages : List Json} {s : Selection} {e : Entry}

theorem entry_readFrom (h : e ∈ entries deliveryCursor messages) : e.ReadFrom e.message := by
  obtain ⟨message, -, hread⟩ := List.mem_filterMap.mp h
  cases hentry : readEntry deliveryCursor message with
  | error what =>
    rw [hentry] at hread
    cases hread
  | ok entry =>
    rw [hentry] at hread
    obtain rfl := Option.some.inj hread
    have hfrom := readEntry_ok hentry
    exact hfrom.same.symm ▸ hfrom

theorem estop_mem (h : e ∈ newest (estops deliveryCursor messages)) :
    e ∈ entries deliveryCursor messages ∧ e.control.command.estop = true :=
  List.mem_filter.mp (newest_mem h).1

/-- A handling that forwards nothing and throws. -/
theorem batchLaw_thrown {cutoffMs : ℤ} {handling : Handling} (hforwarded : handling.forwarded = [])
    (herror : handling.error ≠ none) (h : estops deliveryCursor messages = []) :
    BatchLaw cutoffMs deliveryCursor messages handling := by
  refine ⟨fun hestop => absurd h hestop, fun payload hpayload => ?_, ?_, fun hdone => ?_⟩
  · rw [hforwarded] at hpayload
    exact absurd hpayload List.not_mem_nil
  · rw [hforwarded]
    exact Nat.zero_le 1
  · exact absurd hdone (not_or.mpr ⟨not_not.mpr hforwarded, herror⟩)

/-- The selected entry, when it may cross the siblings. -/
theorem deliver_selected (deliveryCursor : ℕ) (cutoffMs : ℤ) (sendError : Option String) {selected : Entry}
    (hselected : s.newestEstop.or s.newest = some selected.message)
    (hread : selected.ReadFrom selected.message)
    (hsiblings : ¬(s.firstProtocolIssue ≠ "" ∧ s.newestEstop.isNone = true)) :
    (∃ what, forward cutoffMs selected.message = .error what ∧
        s.deliver cutoffMs sendError deliveryCursor = { error := some what }) ∨
      ∃ forwarded ack, forward cutoffMs selected.message = .ok forwarded ∧
        ack.deliveryCursor = deliveryCursor ∧
        s.deliver cutoffMs sendError deliveryCursor =
          { forwarded := forwarded
            acknowledged := [ack]
            error := sendError.or s.siblingError } := by
  unfold Selection.deliver
  rw [hselected]
  simp only [if_neg hsiblings]
  cases hforward : forward cutoffMs selected.message with
  | error what => exact .inl ⟨what, rfl, rfl⟩
  | ok forwarded =>
    have hack := deliveryAck_entry hread deliveryCursor
    generalize hmade : (⟨deliveryCursor, selected.control.command.sessionId,
      selected.control.command.seq, selected.control.intentSeq⟩ : DeliveryAck) = ack at hack
    rw [hack]
    exact .inr ⟨forwarded, ack, rfl, hmade ▸ rfl, rfl⟩

theorem batchLaw_delivered {cutoffMs : ℤ} {forwarded : List Json} {ack : DeliveryAck}
    {error : Option String} (hack : ack.deliveryCursor = deliveryCursor)
    (hestop : estops deliveryCursor messages ≠ [] →
      ∃ entry ∈ newest (estops deliveryCursor messages), forwarded = [entry.payload])
    (hordinary : ∀ payload ∈ forwarded,
      payload.value "estop" Json.getBoolean false = .ok false →
        (∀ message ∈ messages, ∃ entry, readEntry deliveryCursor message = .ok entry) ∧
        ∃ entry ∈ newest (entries deliveryCursor messages), entry.payload = payload ∧
          (0 < cutoffMs → cutoffMs < entry.control.command.sentAtUtcMs))
    (hsingle : forwarded.length ≤ 1) :
    BatchLaw cutoffMs deliveryCursor messages
      { forwarded := forwarded
        acknowledged := [ack]
        error := error } :=
  ⟨hestop, hordinary, hsingle, fun _ => congrArg (fun c => [c]) hack⟩

/-- The newest ESTOP crosses its siblings, if its stamp can be read. -/
theorem batchLaw_estop (h : Scanned deliveryCursor messages s) (cutoffMs : ℤ)
    (sendError : Option String) (he : e ∈ newest (estops deliveryCursor messages)) :
    BatchLaw cutoffMs deliveryCursor messages (s.deliver cutoffMs sendError deliveryCursor) ↔
      (e.message.value "queued_at_utc_ms" Json.getInt64 0).toOption.isSome = true := by
  obtain ⟨hmem, hestop⟩ := estop_mem he
  have hread := entry_readFrom hmem
  have hsome : s.newestEstop = some e.message := by
    have hkept := h.newestEstop
    rw [Option.mem_def.mp he] at hkept
    exact congrArg Prod.fst hkept
  have hne : estops deliveryCursor messages ≠ [] := List.ne_nil_of_mem (newest_mem he).1
  have hforward : forward cutoffMs e.message =
      e.message.value "queued_at_utc_ms" Json.getInt64 0 >>= fun _ => .ok [e.payload] := by
    rw [forward_entry hread, if_neg]
    exact fun hno => Bool.false_ne_true (hno.1.symm.trans hestop)
  rcases deliver_selected deliveryCursor cutoffMs sendError
    (by rw [hsome]; rfl) hread (by rw [hsome]; exact fun hno => nomatch hno.2) with
    ⟨what, hthrown, hdeliver⟩ | ⟨forwarded, ack, hdone, hack, hdeliver⟩
  · rw [hdeliver]
    rw [hforward] at hthrown
    constructor
    · intro hlaw
      obtain ⟨entry, -, hnone⟩ := hlaw.estop hne
      cases hnone
    · intro hstamp
      cases hvalue : e.message.value "queued_at_utc_ms" Json.getInt64 0 with
      | error what =>
        rw [hvalue] at hstamp
        cases hstamp
      | ok stamp =>
        rw [hvalue] at hthrown
        cases hthrown
  · rw [hdeliver]
    rw [hforward] at hdone
    obtain ⟨stamp, hstamp, hdone⟩ := bind_ok hdone
    obtain rfl := Except.ok.inj hdone
    refine iff_of_true (batchLaw_delivered hack (fun _ => ⟨e, he, rfl⟩) ?_ (le_refl 1)) ?_
    · intro payload hpayload hordinary
      obtain rfl := List.mem_singleton.mp hpayload
      have hread := (controlCommand_fromJson_ok hread.command).2.1
      rw [hestop] at hread
      cases hread.symm.trans hordinary
    · rw [hstamp]
      rfl

/-- Without an ESTOP the batch is handled by the law whatever it holds. -/
theorem batchLaw_ordinary (h : Scanned deliveryCursor messages s) (cutoffMs : ℤ)
    (sendError : Option String) (hnone : estops deliveryCursor messages = []) :
    BatchLaw cutoffMs deliveryCursor messages (s.deliver cutoffMs sendError deliveryCursor) := by
  have hestop : s.newestEstop = none := by
    have hkept := h.newestEstop
    rw [newest_eq_none.mpr hnone] at hkept
    exact congrArg Prod.fst hkept
  cases hnewest : newest (entries deliveryCursor messages) with
  | none =>
    have hempty : s.newest = none := by
      have hkept := h.newest
      rw [hnewest] at hkept
      exact congrArg Prod.fst hkept
    unfold Selection.deliver
    rw [hestop, hempty]
    exact batchLaw_thrown rfl (Option.some_ne_none _) hnone
  | some e =>
    have hsome : s.newest = some e.message := by
      have hkept := h.newest
      rw [hnewest] at hkept
      exact congrArg Prod.fst hkept
    have hread := entry_readFrom (newest_mem hnewest).1
    by_cases hissue : s.firstProtocolIssue = ""
    · rcases deliver_selected deliveryCursor cutoffMs sendError
        (by rw [hestop, hsome]; rfl) hread (fun hno => hno.1 hissue) with
        ⟨what, -, hdeliver⟩ | ⟨forwarded, ack, hdone, hack, hdeliver⟩
      · rw [hdeliver]
        exact batchLaw_thrown rfl (Option.some_ne_none _) hnone
      · rw [hdeliver]
        rw [forward_entry hread] at hdone
        split at hdone
        · obtain rfl := Except.ok.inj hdone
          exact batchLaw_delivered hack (absurd hnone ·)
            (fun _ hpayload => absurd hpayload List.not_mem_nil) (Nat.zero_le 1)
        · rename_i hfresh
          obtain ⟨stamp, -, hdone⟩ := bind_ok hdone
          obtain rfl := Except.ok.inj hdone
          refine batchLaw_delivered hack (absurd hnone ·) (fun payload hpayload hordinary => ?_)
            (le_refl 1)
          obtain rfl := List.mem_singleton.mp hpayload
          refine ⟨h.issue.mp hissue, e, hnewest, rfl, fun hcutoff => ?_⟩
          have hread := (controlCommand_fromJson_ok hread.command).2.1
          have hno := Except.ok.inj (hread.symm.trans hordinary)
          by_contra hstale
          exact hfresh ⟨hno, hcutoff, not_lt.mp hstale⟩
    · unfold Selection.deliver
      rw [hestop, hsome]
      simp only [Option.none_or, ne_eq, hissue, not_false_eq_true, Option.isNone_none, and_self,
        if_true]
      refine batchLaw_thrown rfl ?_ hnone
      show s.siblingError ≠ none
      rw [Selection.siblingError, if_neg hissue]
      exact Option.some_ne_none _

/-- A batch is handled by the law exactly when its newest ESTOP is stamped with a number. -/
theorem batchLaw_iff (h : Scanned deliveryCursor messages s) (cutoffMs : ℤ)
    (sendError : Option String) :
    BatchLaw cutoffMs deliveryCursor messages (s.deliver cutoffMs sendError deliveryCursor) ↔
      Stamped deliveryCursor messages := by
  unfold Stamped
  cases hnewest : newest (estops deliveryCursor messages) with
  | none =>
    exact iff_of_true (batchLaw_ordinary h cutoffMs sendError (newest_eq_none.mp hnewest))
      fun e he => absurd he (Option.not_mem_none e)
  | some e =>
    rw [batchLaw_estop h cutoffMs sendError hnewest]
    exact ⟨fun hstamp e' he' => Option.some.inj he' ▸ hstamp, fun hall => hall e rfl⟩

end

/-! ## Every run -/

theorem envelopeLaw_step {past : History NativeControlReceiver DeliveryEvent Handling}
    {r : NativeControlReceiver} (hr : r.commandFreshnessCutoffAtMs = freshnessCutoff past)
    (e : DeliveryEvent) :
    EnvelopeLaw (receiver.observe r e) past ↔ EstopStamped (receiver.observe r e) := by
  refine forall₂_congr fun batch hbatch => ?_
  cases e with
  | transportStarted | transportFailed => cases hbatch
  | envelope document sendError nowMs stopping =>
    change batch ∈ batch? document at hbatch
    unfold batch? at hbatch
    split at hbatch
    · rename_i found hopen
      obtain rfl := Option.mem_def.mp hbatch
      obtain ⟨deliveryCursor, messages⟩ := batch
      have houtput : (receiver.observe r (.envelope document sendError nowMs stopping)).output =
          (messages.foldl (Selection.take deliveryCursor) {}).deliver (freshnessCutoff past)
            sendError deliveryCursor := by
        show handleNativeControlWebsocketEnvelope r.commandFreshnessCutoffAtMs sendError document = _
        rw [handleNativeControlWebsocketEnvelope, hopen, hr]
      rw [houtput]
      exact batchLaw_iff (scanned_batch deliveryCursor messages) (freshnessCutoff past) sendError
    · cases hbatch

theorem freshnessCutoff_step {past : History NativeControlReceiver DeliveryEvent Handling}
    {r : NativeControlReceiver} (hr : r.commandFreshnessCutoffAtMs = freshnessCutoff past)
    (e : DeliveryEvent) :
    (receiver.step r e).2.commandFreshnessCutoffAtMs =
      freshnessCutoff (receiver.observe r e :: past) := by
  cases e with
  | transportStarted | transportFailed => rfl
  | envelope document sendError nowMs stopping =>
    show _ = if _ then nowMs else freshnessCutoff past
    rw [← hr]
    exact apply_ite NativeControlReceiver.commandFreshnessCutoffAtMs _ _ _

/-- In every run the batches are handled by the law exactly when the newest ESTOP of each is
stamped with a number, or not at all. -/
theorem envelope_iff {h : History NativeControlReceiver DeliveryEvent Handling}
    {r : NativeControlReceiver} (hr : Run receiver h r) :
    Always EnvelopeLaw h ↔ Steps EstopStamped h :=
  (hr.always_of_link (C := fun _ => True)
    (R := fun past r => r.commandFreshnessCutoffAtMs = freshnessCutoff past) rfl
    (fun _ _ e _ hi _ => freshnessCutoff_step hi e)
    (fun _ _ e _ hi _ => envelopeLaw_step hi e) (steps_true h)).congr

/-! ## An ESTOP and its stamp -/

def benchControl (estop : Bool) : Json :=
  .object
    [("type", .string "control_command"), ("protocol_version", .integer 1),
      ("vehicle_id", .string "vehicle-1"), ("driver_id", .string "driver-1"),
      ("session_id", .string "session-1"), ("seq", .integer 1), ("sent_at_utc_ms", .integer 1000),
      ("gear", .string "N"), ("steering", .integer 0), ("throttle", .integer 0),
      ("brake", .integer 0), ("estop", .boolean estop), ("control_token", .string "token"),
      ("intent_seq", .integer 1), ("intent_fresh", .boolean true)]

def benchEntry (cursor : ℤ) (queuedAt : Json) (estop : Bool) : Json :=
  .object
    [("type", .string "control_command"), ("delivery_cursor", .integer cursor),
      ("queued_at_utc_ms", queuedAt), ("payload", benchControl estop)]

def benchEnvelope (messages : List Json) : Json :=
  .object
    [("event", .string "signaling_messages"), ("delivery_cursor", .integer 9),
      ("messages", .array messages)]

/-- An ESTOP among a malformed entry and a newer command. -/
def mixedEvents : List DeliveryEvent :=
  [.transportStarted 900,
    .envelope (benchEnvelope [benchEntry 3 (.integer 990) true, .null,
      benchEntry 5 (.integer 995) false]) none 1001 false]

/-- An ESTOP that is stamped with a text. -/
def misstamped : DeliveryEvent :=
  .envelope (benchEnvelope [benchEntry 3 (.string "soon") true]) none 1001 false

theorem envelope_iff_mixed :
    ((receiver.play mixedEvents).1.map fun st =>
      (st.output.forwarded.length, st.output.acknowledged.map DeliveryAck.deliveryCursor)) =
      [(1, [9]), (0, [])] ∧
    (Always EnvelopeLaw (receiver.play mixedEvents).1 ↔
      Steps EstopStamped (receiver.play mixedEvents).1) :=
  ⟨by decide +kernel, envelope_iff (Run.play receiver mixedEvents)⟩

/-- The ESTOP is neither handed on nor acknowledged. -/
theorem envelope_fails :
    ¬Always EnvelopeLaw (receiver.play [.transportStarted 900, misstamped]).1 := by
  intro halways
  have hplay : [.transportStarted 900, misstamped] =
      [.transportStarted 900] ++ [misstamped] := rfl
  rw [hplay, Machine.play_concat] at halways
  have hfound : (misstamped.batch?.map fun batch => (estops batch.1 batch.2).length) = some 1 ∧
      (receiver.observe (receiver.play [.transportStarted 900]).2
        misstamped).output.forwarded.length = 0 := by
    decide +kernel
  obtain ⟨hestops, hforwarded⟩ := hfound
  obtain ⟨batch, hbatch, hlength⟩ := Option.map_eq_some_iff.mp hestops
  obtain ⟨entry, -, hhanded⟩ :=
    (halways.1 batch hbatch).estop (List.ne_nil_of_length_eq_add_one hlength)
  rw [hhanded] at hforwarded
  cases hforwarded

end MineTeleop.Media
