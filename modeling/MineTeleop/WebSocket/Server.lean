import MineTeleop.Library.Program
import MineTeleop.WebSocket.Frames

/-!
# The reading end of the server

`ServerWebSocketConnection` takes each part of a frame from the socket when it has come as a whole.
`receiveFrame_ok` says when it takes a frame: exactly when `Rules.decode` finds one in what has
arrived, and it leaves what is behind it.
-/

namespace MineTeleop.WebSocket

open Programs
open Service (Failure bind_ok)

/-- What has arrived and not been taken; a peer that has closed sends no more. -/
structure Socket where
  arrived : List UInt8
  closed : Bool := false

/-- How `receive_json` is left before a frame is there. -/
inductive Ended where
  | closed
  | threw (failure : Failure)

namespace ServerWebSocketConnection

/-- Bytes that do not come before the deadline are those that do not come at all. -/
def socketReceiveExact (size : ℕ) : Program Socket Ended (List UInt8) := do
  let socket ← get
  if size ≤ socket.arrived.length then
    modify fun socket => { socket with arrived := socket.arrived.drop size }
    return socket.arrived.take size
  else
    modify fun socket => { socket with arrived := [] }
    throw (if socket.closed then .closed else .threw (.runtimeError "websocket frame timed out"))

def checked {α : Type} : Except Failure α → Program Socket Ended α
  | .ok a => return a
  | .error failure => throw (.threw failure)

/-- The part of `receive_json` that comes by a frame. -/
def receiveFrame (maxMessageBytes : ℕ) : Program Socket Ended Frame := do
  let header ← socketReceiveExact 2
  let first := header.getD 0 0
  let second := header.getD 1 0
  let opcode ← checked ((rules maxMessageBytes).checkHeader first second)
  let extended ← socketReceiveExact (extendedSize second)
  let length ← checked ((rules maxMessageBytes).payloadSize second extended)
  checked ((rules maxMessageBytes).checkSize first opcode length)
  let mask ← socketReceiveExact 4
  let payload ← socketReceiveExact length
  return ⟨decide (first &&& 0x80 ≠ 0), opcode, Bytes.masked (MaskingKey.ofBytes mask) payload⟩

/-! ## What is taken -/

/-- The program returns what the decoding gives, and leaves what the decoding leaves. -/
def Follows {α : Type} (p : Program Socket Ended α) (decoded : Except Stop (α × List UInt8))
    (socket : Socket) : Prop :=
  ∀ a socket', p.exec socket = (.ok a, socket') ↔
    ∃ rest, decoded = .ok (a, rest) ∧ socket' = { socket with arrived := rest }

section
variable {α β : Type} {socket : Socket}

theorem follows_pure (a : α) {rest : List UInt8} (h : socket.arrived = rest) :
    Follows (pure a) (.ok (a, rest)) socket := by
  intro b socket'
  change ((.ok a : Except Ended α), socket) = (.ok b, socket') ↔ _
  constructor
  · rintro heq
    cases heq
    exact ⟨rest, rfl, by rw [← h]⟩
  · rintro ⟨rest', hdecoded, rfl⟩
    cases hdecoded
    rw [← h]

theorem Follows.receive {size : ℕ} {f : List UInt8 → Program Socket Ended α}
    {g : List UInt8 × List UInt8 → Except Stop (α × List UInt8)}
    (h : ∀ part rest, part.length = size →
      Follows (f part) (g (part, rest)) { socket with arrived := rest }) :
    Follows (socketReceiveExact size >>= f) (take size socket.arrived >>= g) socket := by
  intro a socket'
  rw [exec_bind]
  by_cases hsize : size ≤ socket.arrived.length
  · have hexec : (socketReceiveExact size).exec socket =
        (.ok (socket.arrived.take size), { socket with arrived := socket.arrived.drop size }) := by
      unfold socketReceiveExact
      rw [exec_bind]
      change (if size ≤ socket.arrived.length then _ else _ : Program Socket Ended _).exec socket = _
      rw [if_pos hsize]
      rfl
    rw [hexec, take, if_pos hsize]
    exact h _ _ (List.length_take_of_le hsize) a socket'
  · have hexec : ∃ ended, (socketReceiveExact size).exec socket =
        (.error ended, { socket with arrived := [] }) := by
      unfold socketReceiveExact
      rw [exec_bind]
      change ∃ ended, (if size ≤ socket.arrived.length then _ else _ : Program Socket Ended _).exec
        socket = _
      rw [if_neg hsize]
      exact ⟨_, rfl⟩
    obtain ⟨ended, hexec⟩ := hexec
    rw [hexec, take, if_neg hsize]
    simp [bind, Except.bind]

theorem Follows.check {x : Except Failure β} {f : β → Program Socket Ended α}
    {g : β → Except Stop (α × List UInt8)} (h : ∀ b, Follows (f b) (g b) socket) :
    Follows (checked x >>= f) (x.mapError .refused >>= g) socket := by
  cases x with
  | ok b => exact h b
  | error failure =>
    intro a socket'
    change ((.error (.threw failure) : Except Ended α), socket) = (.ok a, socket') ↔ _
    simp [bind, Except.bind, Except.mapError]

end

/-- A frame is taken exactly when it is at the front of what has arrived. -/
theorem receiveFrame_follows (maxMessageBytes : ℕ) (socket : Socket) :
    Follows (receiveFrame maxMessageBytes) ((rules maxMessageBytes).decode socket.arrived) socket := by
  have hfront : (rules maxMessageBytes).decode socket.arrived =
      (take 2 socket.arrived >>= fun parts =>
        (rules maxMessageBytes).decode (parts.1 ++ parts.2)) := by
    unfold take
    split
    · simp [bind, Except.bind]
    · rename_i hshort
      match harrived : socket.arrived with
      | [] => rfl
      | [_] => rfl
      | _ :: _ :: _ =>
        rw [harrived] at hshort
        exact absurd (by simp) hshort
  rw [hfront]
  unfold receiveFrame
  refine Follows.receive fun header rest hheader => ?_
  obtain ⟨first, second, rfl⟩ := List.length_eq_two.mp hheader
  refine Follows.check fun opcode => ?_
  refine Follows.receive fun extended rest _ => ?_
  refine Follows.check fun length => ?_
  refine Follows.check fun _ => ?_
  refine Follows.receive fun mask rest _ => ?_
  refine Follows.receive fun payload rest _ => ?_
  exact follows_pure _ rfl

end ServerWebSocketConnection

end MineTeleop.WebSocket
