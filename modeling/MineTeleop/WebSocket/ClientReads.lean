import MineTeleop.WebSocket.Client

/-!
# What the client reads

`readFrame_read` compares the client, which waits for the parts of a frame one after the other, with
`Rules.decode` on all that it has received: it takes the frame that is decoded, and waits or gives up
only while there is none.  `receiveJson` is the loop over its frames.
-/

namespace MineTeleop.WebSocket

open Documents Programs
open Service (Failure)

/-- The bytes that come with some events. -/
def SocketEvent.bytes : SocketEvent → List UInt8
  | .received bytes => bytes
  | _ => []

def received (events : List SocketEvent) : List UInt8 := events.flatMap SocketEvent.bytes

/-- The event brings bytes. -/
def SocketEvent.Flows : SocketEvent → Prop
  | .received bytes => bytes ≠ []
  | _ => False

instance : ∀ event : SocketEvent, Decidable event.Flows
  | .received bytes => inferInstanceAs (Decidable (bytes ≠ []))
  | .expired => .isFalse id
  | .failed _ => .isFalse id

def Flow (events : List SocketEvent) : Prop := ∀ event ∈ events, event.Flows

@[simp] theorem received_nil : received [] = [] := rfl

@[simp] theorem received_append (events events' : List SocketEvent) :
    received (events ++ events') = received events ++ received events' := List.flatMap_append

@[simp] theorem received_cons (event : SocketEvent) (events : List SocketEvent) :
    received (event :: events) = event.bytes ++ received events := rfl

theorem flow_nil : Flow [] := fun _ h => (List.not_mem_nil h).elim

theorem Flow.append {events events' : List SocketEvent} (h : Flow events) (h' : Flow events') :
    Flow (events ++ events') := by
  intro event hevent
  rcases List.mem_append.mp hevent with hleft | hright
  · exact h event hleft
  · exact h' event hright

/-- The deadline passes: because the socket says so, or because nothing is left to happen. -/
def Dries (events rest : List SocketEvent) : Prop :=
  (events = [] ∧ rest = []) ∨ events = .expired :: rest

/-- The socket ends a read in another way. -/
def Breaks (events rest : List SocketEvent) : Prop :=
  ∃ event, events = event :: rest ∧ (event = .received [] ∨ ∃ error, event = .failed error)

namespace WebSocketClient

/-- The client with more bytes in its buffer. -/
def fed (client : WebSocketClient) (bytes : List UInt8) : WebSocketClient :=
  { client with buffered := client.buffered ++ bytes }

/-! ## Waiting for bytes -/

/-- How the wait for a number of bytes ends. -/
inductive Ensured (size : ℕ) (wire : Wire) : Except Failure Bool × Wire → Prop
  | enough (used events : List SocketEvent) (hevents : wire.events = used ++ events)
      (hflow : Flow used) (hneeded : used ≠ [] → wire.client.buffered.length < size)
      (hsize : size ≤ (wire.client.fed (received used)).buffered.length) :
      Ensured size wire (.ok true, ⟨wire.client.fed (received used), events⟩)
  | dry (used events rest : List SocketEvent) (hevents : wire.events = used ++ events)
      (hflow : Flow used) (hdries : Dries events rest)
      (hsize : (wire.client.fed (received used)).buffered.length < size) :
      Ensured size wire (.ok false, ⟨wire.client.fed (received used), rest⟩)
  | broken (used events rest : List SocketEvent) (hevents : wire.events = used ++ events)
      (hbreaks : Breaks events rest) (hneeded : wire.client.buffered.length < size)
      (ended : Except Failure Bool) (hended : ended ≠ .ok true)
      (client : WebSocketClient) : Ensured size wire (ended, ⟨client, rest⟩)

theorem fed_nil (client : WebSocketClient) : client.fed [] = client := by
  unfold fed
  rw [List.append_nil]

theorem fed_append (client : WebSocketClient) (bytes bytes' : List UInt8) :
    client.fed (bytes ++ bytes') = (client.fed bytes).fed bytes' := by
  unfold fed
  rw [List.append_assoc]

section
variable {size : ℕ} {client : WebSocketClient} {events rest : List SocketEvent}

theorem Ensured.now (hsize : size ≤ client.buffered.length) :
    Ensured size ⟨client, events⟩ (.ok true, ⟨client, events⟩) := by
  have h : Ensured size ⟨client, events⟩ (.ok true, ⟨client.fed (received []), events⟩) :=
    .enough [] events rfl flow_nil (absurd rfl) (by rw [received_nil, fed_nil]; exact hsize)
  rwa [received_nil, fed_nil] at h

theorem Ensured.atOnce (hdries : Dries events rest) (hsize : client.buffered.length < size) :
    Ensured size ⟨client, events⟩ (.ok false, ⟨client, rest⟩) := by
  have h : Ensured size ⟨client, events⟩ (.ok false, ⟨client.fed (received []), rest⟩) :=
    .dry [] events rest rfl flow_nil hdries (by rw [received_nil, fed_nil]; exact hsize)
  rwa [received_nil, fed_nil] at h

/-- A wait after some bytes have come is part of the wait for more. -/
theorem Ensured.flowed {bytes : List UInt8} {out : Except Failure Bool × Wire}
    (hbytes : bytes ≠ []) (hneeded : client.buffered.length < size)
    (h : Ensured size ⟨client.fed bytes, events⟩ out) :
    Ensured size ⟨client, .received bytes :: events⟩ out := by
  have hflows : ∀ used, Flow used → Flow (.received bytes :: used) :=
    fun used hflow => List.forall_mem_cons.mpr ⟨hbytes, hflow⟩
  cases h with
  | enough used rest hevents hflow _ hsize =>
    dsimp only at hevents hsize ⊢
    rw [← fed_append] at hsize ⊢
    exact .enough (.received bytes :: used) rest (congrArg _ hevents) (hflows used hflow)
      (fun _ => hneeded) hsize
  | dry used events' rest hevents hflow hdries hsize =>
    dsimp only at hevents hsize ⊢
    rw [← fed_append] at hsize ⊢
    exact .dry (.received bytes :: used) events' rest (congrArg _ hevents) (hflows used hflow)
      hdries hsize
  | broken used events' rest hevents hbreaks _ ended hended client' =>
    exact .broken (.received bytes :: used) events' rest (congrArg _ hevents) hbreaks hneeded ended
      hended client'

end

theorem ensureFrom_ensured (size : ℕ) (client : WebSocketClient) (events : List SocketEvent) :
    Ensured size ⟨client, events⟩ (ensureFrom size client events) := by
  induction events generalizing client with
  | nil =>
    unfold ensureFrom
    by_cases hsize : size ≤ client.buffered.length
    · rw [decide_eq_true hsize]
      exact .now hsize
    · rw [decide_eq_false hsize]
      exact .atOnce (.inl ⟨rfl, rfl⟩) (not_le.mp hsize)
  | cons event events ih =>
    unfold ensureFrom
    by_cases hsize : size ≤ client.buffered.length
    · rw [if_pos hsize]
      exact .now hsize
    rw [if_neg hsize]
    cases event with
    | expired => exact .atOnce (.inr rfl) (not_le.mp hsize)
    | failed error =>
      exact .broken [] _ events rfl ⟨_, rfl, .inr ⟨error, rfl⟩⟩ (not_le.mp hsize) _ (by simp) _
    | received bytes =>
      cases bytes with
      | nil => exact .broken [] _ events rfl ⟨_, rfl, .inl rfl⟩ (not_le.mp hsize) _ (by simp) _
      | cons byte bytes => exact .flowed (List.cons_ne_nil byte bytes) (not_le.mp hsize) (ih _)

theorem ensureBytes_ensured (size : ℕ) (wire : Wire) :
    Ensured size wire ((ensureBytes size).exec wire) :=
  ensureFrom_ensured size wire.client wire.events

/-! ## Reading a frame -/

/-- How the attempt to read a frame ends. -/
inductive FrameRead (wire : Wire) : Except Failure (Option Frame) × Wire → Prop
  | frame (used events : List SocketEvent) (hevents : wire.events = used ++ events)
      (hflow : Flow used) (frame : Frame) (rest : List UInt8)
      (hneeded : used ≠ [] → rules.decode wire.client.buffered = .error .short)
      (hdecode : rules.decode (wire.client.fed (received used)).buffered = .ok (frame, rest)) :
      FrameRead wire (.ok (some frame), ⟨{ wire.client with buffered := rest }, events⟩)
  | refused (used events : List SocketEvent) (hevents : wire.events = used ++ events)
      (hflow : Flow used) (failure : Failure)
      (hdecode : rules.decode (wire.client.fed (received used)).buffered =
        .error (.refused failure)) :
      FrameRead wire (.error failure, ⟨wire.client.fed (received used), events⟩)
  | idle (used events rest : List SocketEvent) (hevents : wire.events = used ++ events)
      (hflow : Flow used) (hdries : Dries events rest)
      (hsize : (wire.client.fed (received used)).buffered.length < 2) :
      FrameRead wire (.ok none, ⟨wire.client.fed (received used), rest⟩)
  | cut (used events rest : List SocketEvent) (hevents : wire.events = used ++ events)
      (hflow : Flow used) (hdries : Dries events rest)
      (hsize : 2 ≤ (wire.client.fed (received used)).buffered.length)
      (hdecode : rules.decode (wire.client.fed (received used)).buffered = .error .short) :
      FrameRead wire (.error incomplete, ⟨wire.client.fed (received used), rest⟩)
  | broken (used events rest : List SocketEvent) (hevents : wire.events = used ++ events)
      (hbreaks : Breaks events rest)
      (hneeded : rules.decode wire.client.buffered = .error .short)
      (ended : Except Failure (Option Frame))
      (hended : ∀ frame, ended ≠ .ok (some frame)) (client : WebSocketClient) :
      FrameRead wire (ended, ⟨client, rest⟩)

/-- A reading that goes on after some bytes have come. -/
theorem FrameRead.after {wire : Wire} {used events : List SocketEvent}
    (hevents : wire.events = used ++ events) (hflow : Flow used)
    (hneeded : used ≠ [] → rules.decode wire.client.buffered = .error .short)
    {out : Except Failure (Option Frame) × Wire}
    (h : FrameRead ⟨wire.client.fed (received used), events⟩ out) : FrameRead wire out := by
  have hjoin : ∀ later rest, events = later ++ rest → wire.events = (used ++ later) ++ rest := by
    rintro later rest rfl
    rw [hevents, List.append_assoc]
  -- There was no frame before the first byte came, or no byte has come.
  have hstart : (used = [] →
      rules.decode (wire.client.fed (received used)).buffered = .error .short) →
      rules.decode wire.client.buffered = .error .short := by
    intro hnow
    cases used with
    | nil =>
      rw [← hnow rfl, received_nil, fed_nil]
    | cons event used => exact hneeded (List.cons_ne_nil event used)
  cases h with
  | frame later events' hevents' hflow' frame rest hneeded' hdecode =>
    dsimp only at hevents' hneeded' hdecode
    rw [← fed_append, ← received_append] at hdecode
    refine .frame (used ++ later) events' (hjoin _ _ hevents') (hflow.append hflow') frame rest
      (fun hne => hstart fun hnil => hneeded' fun hlater => hne ?_) hdecode
    rw [hnil, hlater, List.append_nil]
  | refused later events' hevents' hflow' failure hdecode =>
    dsimp only at hevents' hdecode ⊢
    rw [← fed_append, ← received_append] at hdecode ⊢
    exact .refused (used ++ later) events' (hjoin _ _ hevents') (hflow.append hflow') failure hdecode
  | idle later events' rest hevents' hflow' hdries hsize =>
    dsimp only at hevents' hsize ⊢
    rw [← fed_append, ← received_append] at hsize ⊢
    exact .idle (used ++ later) events' rest (hjoin _ _ hevents') (hflow.append hflow') hdries hsize
  | cut later events' rest hevents' hflow' hdries hsize hdecode =>
    dsimp only at hevents' hsize hdecode ⊢
    rw [← fed_append, ← received_append] at hsize hdecode ⊢
    exact .cut (used ++ later) events' rest (hjoin _ _ hevents') (hflow.append hflow') hdries hsize
      hdecode
  | broken later events' rest hevents' hbreaks hneeded' ended hended client =>
    exact .broken (used ++ later) events' rest (hjoin _ _ hevents') hbreaks
      (hstart fun _ => hneeded') ended hended client

/-- `FrameRead` for a program that has a frame to return. -/
def BegunRead (wire : Wire) (out : Except Failure Frame × Wire) : Prop :=
  FrameRead wire (out.1.map some, out.2)

theorem BegunRead.check {α : Type} {wire : Wire} {x : Except Failure α}
    {p : α → Program Wire Failure Frame}
    (hrefused : ∀ failure, x = .error failure →
      rules.decode wire.client.buffered = .error (.refused failure))
    (hok : ∀ a, x = .ok a → BegunRead wire ((p a).exec wire)) :
    BegunRead wire ((checked x >>= p).exec wire) := by
  cases x with
  | ok a => exact hok a rfl
  | error failure =>
    have hdecode := hrefused failure rfl
    have h : FrameRead wire (.error failure, ⟨wire.client.fed (received []), wire.events⟩) :=
      .refused [] wire.events rfl flow_nil failure (by rwa [received_nil, fed_nil])
    rwa [received_nil, fed_nil] at h

/-- The bytes that are waited for are those without which there is no frame. -/
theorem BegunRead.require {size : ℕ} {wire : Wire} {p : Program Wire Failure Frame}
    (hbegun : 2 ≤ wire.client.buffered.length)
    (hshort : ∀ more, (wire.client.fed more).buffered.length < size →
      rules.decode (wire.client.fed more).buffered = .error .short)
    (hp : ∀ more events, size ≤ (wire.client.fed more).buffered.length →
      BegunRead ⟨wire.client.fed more, events⟩ (p.exec ⟨wire.client.fed more, events⟩)) :
    BegunRead wire ((requireBytes size >>= fun _ => p).exec wire) := by
  unfold requireBytes
  rw [exec_bind, exec_bind]
  have hensured := ensureBytes_ensured size wire
  generalize (ensureBytes size).exec wire = out at hensured
  cases hensured with
  | enough used events hevents hflow hneeded hsize =>
    refine FrameRead.after hevents hflow (fun hne => ?_) (hp _ events hsize)
    have hfirst := hshort []
    rw [fed_nil] at hfirst
    exact hfirst (hneeded hne)
  | dry used events rest hevents hflow hdries hsize =>
    refine FrameRead.cut used events rest hevents hflow hdries ?_ (hshort _ hsize)
    refine hbegun.trans ?_
    unfold fed
    rw [List.length_append]
    omega
  | broken used events rest hevents hbreaks hneeded ended hended client =>
    have hfirst := hshort []
    rw [fed_nil] at hfirst
    cases ended with
    | error failure =>
      exact .broken used events rest hevents hbreaks (hfirst hneeded) _ (by simp [Except.map]) client
    | ok enough =>
      cases enough with
      | true => exact absurd rfl hended
      | false =>
        exact .broken used events rest hevents hbreaks (hfirst hneeded) _ (by rintro _ ⟨⟩) client

/-! ## Both parsers agree -/

section
variable {first second : UInt8} {opcode : Opcode} {tail extended payload : List UInt8}

theorem decode_header (hheader : rules.checkHeader first second = .ok opcode) :
    rules.decode (first :: second :: tail) =
      (take (extendedSize second) tail >>= fun parts =>
        (rules.payloadSize second parts.1).mapError Stop.refused >>= fun length =>
        (rules.checkSize first opcode length).mapError Stop.refused >>= fun _ =>
        take length parts.2 >>= fun parts =>
        .ok (⟨decide (first &&& 0x80 ≠ 0), opcode, parts.1⟩, parts.2)) := by
  have hkey : ∀ bytes : List UInt8, take rules.keySize bytes = .ok ([], bytes) := fun bytes => rfl
  rw [Rules.decode, hheader]
  simp only [bind, Except.bind, Except.mapError, hkey]
  rfl

theorem decode_length (hheader : rules.checkHeader first second = .ok opcode)
    (hextended : extended.length = extendedSize second) :
    rules.decode (first :: second :: (extended ++ tail)) =
      ((rules.payloadSize second extended).mapError Stop.refused >>= fun length =>
        (rules.checkSize first opcode length).mapError Stop.refused >>= fun _ =>
        take length tail >>= fun parts =>
        .ok (⟨decide (first &&& 0x80 ≠ 0), opcode, parts.1⟩, parts.2)) := by
  rw [decode_header hheader, take_append hextended]
  rfl

end

theorem decode_bare {bytes : List UInt8} (h : bytes.length < 2) :
    rules.decode bytes = .error .short := by
  match bytes with
  | [] => rfl
  | [_] => rfl
  | _ :: _ :: _ =>
    simp only [List.length_cons] at h
    omega

theorem buffer_exec {α : Type} (p : List UInt8 → Program Wire Failure α) (wire : Wire) :
    (buffer >>= p).exec wire = (p wire.client.buffered).exec wire := rfl

theorem readBegun_read (wire : Wire) (hbegun : 2 ≤ wire.client.buffered.length) :
    BegunRead wire (readBegun.exec wire) := by
  obtain ⟨first, second, tail, hbuffer⟩ : ∃ first second tail,
      wire.client.buffered = first :: second :: tail := by
    match h : wire.client.buffered with
    | [] => simp [h] at hbegun
    | [_] => simp [h] at hbegun
    | first :: second :: tail => exact ⟨first, second, tail, rfl⟩
  have hmore : ∀ more, (wire.client.fed more).buffered = first :: second :: (tail ++ more) := by
    intro more
    unfold fed
    rw [hbuffer]
    rfl
  unfold readBegun
  rw [buffer_exec, hbuffer]
  simp only [List.getD_cons_zero, List.getD_cons_succ]
  refine BegunRead.check (fun failure hheader => ?_) fun opcode hheader => ?_
  · rw [hbuffer, Rules.decode, hheader]
    rfl
  refine BegunRead.require hbegun (fun more hsize => ?_) fun more events hsize => ?_
  · rw [hmore] at hsize ⊢
    change (tail ++ more).length + 2 < 2 + extendedSize second at hsize
    rw [decode_header hheader, take, if_neg (by omega)]
    rfl
  obtain ⟨extended, behind, hextended, hbuffer⟩ : ∃ extended behind,
      extended.length = extendedSize second ∧
      (wire.client.fed more).buffered = first :: second :: (extended ++ behind) := by
    rw [hmore] at hsize ⊢
    change 2 + extendedSize second ≤ (tail ++ more).length + 2 at hsize
    refine ⟨(tail ++ more).take (extendedSize second), (tail ++ more).drop (extendedSize second), ?_, ?_⟩
    · exact List.length_take_of_le (by omega)
    · rw [List.take_append_drop]
  generalize wire.client.fed more = client at hbuffer
  have hmore : ∀ more, (client.fed more).buffered =
      first :: second :: (extended ++ (behind ++ more)) := by
    intro more
    unfold fed
    rw [hbuffer, ← List.append_assoc]
    rfl
  have hread : (client.buffered.drop 2).take (extendedSize second) = extended := by
    rw [hbuffer, ← hextended]
    exact List.take_left
  rw [buffer_exec]
  dsimp only
  rw [hread]
  refine BegunRead.check (fun failure hlength => ?_) fun length hlength => ?_
  · rw [hbuffer, decode_length hheader hextended, hlength]
    rfl
  refine BegunRead.check (fun failure hcheck => ?_) fun _ hcheck => ?_
  · rw [hbuffer, decode_length hheader hextended, hlength]
    change ((rules.checkSize first opcode length).mapError Stop.refused >>= fun _ => _) = _
    rw [hcheck]
    rfl
  have hmax : length ≤ 8 * 1024 * 1024 := (Rules.checkSize_ok hcheck).2
  have hsmall : extendedSize second ≤ 8 := by
    unfold extendedSize
    split
    · omega
    split <;> omega
  refine BegunRead.check (fun failure hsupported => ?_) fun _ _ => ?_
  · change (if 2 ^ 64 - 1 - (2 + extendedSize second) < length then _ else _) = _ at hsupported
    rw [if_neg (by omega)] at hsupported
    cases hsupported
  have hdecode : ∀ more, rules.decode (client.fed more).buffered =
      take length (behind ++ more) >>= fun parts =>
        .ok (⟨decide (first &&& 0x80 ≠ 0), opcode, parts.1⟩, parts.2) := by
    intro more
    rw [hmore, decode_length hheader hextended, hlength]
    change ((rules.checkSize first opcode length).mapError Stop.refused >>= fun _ => _) = _
    rw [hcheck]
    rfl
  have hlong : ∀ more, (client.fed more).buffered.length =
      2 + extendedSize second + (behind ++ more).length := by
    intro more
    rw [hmore, List.length_cons, List.length_cons, List.length_append, hextended]
    omega
  refine BegunRead.require ?_ (fun more hsize => ?_) fun more events hsize => ?_
  · rw [hbuffer]
    simp
  · change _ < 2 + extendedSize second + length at hsize
    rw [hlong] at hsize
    rw [hdecode, take, if_neg (by omega)]
    rfl
  · change 2 + extendedSize second + length ≤ _ at hsize
    rw [hlong] at hsize
    have hparts : take length (behind ++ more) =
        .ok ((behind ++ more).take length, (behind ++ more).drop length) := by
      rw [take, if_pos (by omega)]
    have hwhole := hdecode more
    rw [hparts] at hwhole
    have hbehind : (client.fed more).buffered.drop (2 + extendedSize second) = behind ++ more := by
      rw [hmore, Nat.add_comm, ← hextended]
      exact List.drop_left
    rw [buffer_exec]
    change FrameRead _ (.ok (some ⟨_, opcode,
      ((client.fed more).buffered.drop (2 + extendedSize second)).take length⟩),
      ⟨{ client.fed more with
        buffered := (client.fed more).buffered.drop (2 + extendedSize second + length) }, events⟩)
    rw [hbehind, ← List.drop_drop, hbehind]
    refine .frame [] events rfl flow_nil _ _ (absurd rfl) ?_
    rw [received_nil, fed_nil]
    exact hwhole

/-- The client agrees with the decoding of all that it has received. -/
theorem readFrame_read (wire : Wire) : FrameRead wire (readFrame.exec wire) := by
  unfold readFrame
  rw [exec_bind]
  have hensured := ensureBytes_ensured 2 wire
  generalize (ensureBytes 2).exec wire = out at hensured
  cases hensured with
  | enough used events hevents hflow hneeded hsize =>
    refine FrameRead.after hevents hflow (fun hne => decode_bare (hneeded hne)) ?_
    have hread := readBegun_read ⟨wire.client.fed (received used), events⟩ hsize
    change FrameRead _ ((readBegun >>= fun frame => pure (some frame) :
      Program Wire Failure (Option Frame)).exec _)
    rw [exec_bind]
    unfold BegunRead at hread
    generalize readBegun.exec _ = out at hread ⊢
    obtain ⟨ended, wire'⟩ := out
    cases ended <;> exact hread
  | dry used events rest hevents hflow hdries hsize =>
    exact .idle used events rest hevents hflow hdries hsize
  | broken used events rest hevents hbreaks hneeded ended hended client =>
    have hbare := decode_bare hneeded
    cases ended with
    | error failure =>
      exact .broken used events rest hevents hbreaks hbare _ (by rintro _ ⟨⟩) client
    | ok enough =>
      cases enough with
      | true => exact absurd rfl hended
      | false => exact .broken used events rest hevents hbreaks hbare _ (by rintro _ ⟨⟩) client

end WebSocketClient

end MineTeleop.WebSocket
