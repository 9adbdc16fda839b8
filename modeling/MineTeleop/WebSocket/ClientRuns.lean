import MineTeleop.WebSocket.ClientReads

/-!
# Calls of `receive_json`

The loop over the frames of one call, and calls one after the other.  `receiveTurn_goes_on`: a turn
of the loop either ends the call or takes a frame, so that the loop ends.
-/

namespace MineTeleop.WebSocket

open Documents Programs
open Service (Failure)

/-- What is left to read. -/
def Wire.size (wire : Wire) : ℕ := wire.client.buffered.length + (received wire.events).length

namespace WebSocketClient

variable {platform : Platform} {wire wire' : Wire}

theorem two_le_length_frameBytes (key : Option MaskingKey) (frame : Frame) :
    2 ≤ (frameBytes key frame).length := by
  have hlength : 1 ≤ (lengthBytes (maskBit key) frame.payload.length).length := by
    unfold lengthBytes
    split
    · exact le_rfl
    split <;> simp
  unfold frameBytes
  rw [List.length_cons, List.length_append, List.length_append]
  omega

/-! ## One frame -/

theorem checked_exec {α β : Type} (x : Except Failure α) (p : α → Program Wire Failure β) :
    (checked x >>= p).exec wire =
      match x with
      | .ok a => (p a).exec wire
      | .error failure => (.error failure, wire) := by
  cases x <;> rfl

/-- The wire after a frame has been given to the socket. -/
def sending (opcode : Opcode) (payload : List UInt8) (wire : Wire) : Wire :=
  { wire with client := { wire.client with sent := (opcode, payload) :: wire.client.sent } }

theorem send_exec (opcode : Opcode) (payload : List UInt8) (wire : Wire) :
    (send platform opcode payload).exec wire =
      (match platform.refusal wire.client.sent.length with
        | none => .ok ()
        | some failure => .error (.runtimeError failure.what), sending opcode payload wire) := by
  unfold send
  rw [exec_bind]
  change (match platform.refusal wire.client.sent.length with
    | none => pure ()
    | some failure => throw (.runtimeError failure.what) : Program Wire Failure Unit).exec
      (sending opcode payload wire) = _
  cases platform.refusal wire.client.sent.length <;> rfl

theorem handle_ping {frame : Frame} (hopcode : frame.opcode = .ping) :
    (handle platform frame).exec wire =
      (match platform.refusal wire.client.sent.length with
        | none => .ok none
        | some failure => .error (.runtimeError failure.what), sending .pong frame.payload wire) := by
  unfold handle
  rw [hopcode]
  dsimp only
  rw [exec_bind, send_exec]
  cases platform.refusal wire.client.sent.length <;> rfl

theorem handle_pong {frame : Frame} (hopcode : frame.opcode = .pong) :
    (handle platform frame).exec wire = (.ok none, wire) := by
  unfold handle
  rw [hopcode]
  rfl

theorem handle_text {frame : Frame} (hopcode : frame.opcode = .text) :
    (handle platform frame).exec wire =
      ((rules.message platform.parse frame).map (some ∘ .message), wire) := by
  unfold handle
  rw [hopcode]
  dsimp only
  rw [checked_exec]
  cases rules.message platform.parse frame <;> rfl

theorem handle_close {frame : Frame} (hopcode : frame.opcode = .close) :
    (handle platform frame).exec wire =
      match rules.checkClose frame.payload with
      | .ok _ => (.ok (some .closed), (close.exec wire).2)
      | .error failure => (.error failure, wire) := by
  unfold handle
  rw [hopcode]
  dsimp only
  rw [checked_exec]
  cases rules.checkClose frame.payload <;> rfl

/-- Where the loop goes on, the frame is all that is gone. -/
theorem handle_goes_on {frame : Frame}
    (h : (handle platform frame).exec wire = (.ok none, wire')) :
    wire'.client.buffered = wire.client.buffered ∧ wire'.events = wire.events := by
  cases hopcode : frame.opcode with
  | text =>
    rw [handle_text hopcode] at h
    cases hmessage : rules.message platform.parse frame with
    | ok json =>
      rw [hmessage] at h
      cases h
    | error failure =>
      rw [hmessage] at h
      cases h
  | close =>
    rw [handle_close hopcode] at h
    cases hclose : rules.checkClose frame.payload with
    | ok _ =>
      rw [hclose] at h
      cases h
    | error failure =>
      rw [hclose] at h
      cases h
  | ping =>
    rw [handle_ping hopcode] at h
    cases (Prod.mk.inj h).2
    exact ⟨rfl, rfl⟩
  | pong =>
    rw [handle_pong hopcode] at h
    cases h
    exact ⟨rfl, rfl⟩

theorem giveUp_stops (h : giveUp.exec wire = (.ok none, wire')) : False := by
  unfold giveUp at h
  rw [exec_bind] at h
  change (if wire.client.peerClosed then _ else _ :
    Program Wire Failure (Option WebSocketReceiveResult)).exec wire = _ at h
  split at h <;> cases h

theorem receiveTurn_exec (platform : Platform) (wire : Wire) :
    (receiveTurn platform).exec wire =
      match readFrame.exec wire with
      | (.ok (some frame), wire') => (handle platform frame).exec wire'
      | (.ok none, wire') => giveUp.exec wire'
      | (.error failure, wire') => (.error failure, wire') := by
  unfold receiveTurn
  rw [exec_bind]
  generalize readFrame.exec wire = out
  obtain ⟨ended, wire'⟩ := out
  cases ended with
  | error failure => rfl
  | ok frame => cases frame <;> rfl

/-- A turn after which the loop goes on has taken a frame. -/
theorem receiveTurn_goes_on (h : (receiveTurn platform).exec wire = (.ok none, wire')) :
    wire'.size < wire.size := by
  rw [receiveTurn_exec] at h
  have hread := readFrame_read wire
  generalize readFrame.exec wire = out at hread h
  cases hread with
  | frame used events hevents hflow frame rest hneeded hdecode =>
    dsimp only at h
    obtain ⟨hbuffered, hlater⟩ := handle_goes_on h
    obtain ⟨⟨key, -, hbytes⟩, -, -⟩ := Rules.decode_ok hdecode
    have htwo := two_le_length_frameBytes key frame
    have hlength := congrArg List.length hbytes
    unfold fed at hlength
    rw [List.length_append, List.length_append] at hlength
    unfold Wire.size
    rw [hbuffered, hlater, hevents, received_append, List.length_append]
    dsimp only
    omega
  | refused used events hevents hflow failure hdecode => cases h
  | idle used events rest hevents hflow hdries hsize => exact (giveUp_stops h).elim
  | cut used events rest hevents hflow hdries hsize hdecode => cases h
  | broken used events rest hevents hbreaks hneeded ended hended client =>
    cases ended with
    | error failure => cases h
    | ok frame =>
      cases frame with
      | none => exact (giveUp_stops h).elim
      | some frame => exact absurd rfl (hended frame)

/-! ## Calls -/

/-- The loop of `receive_json`. -/
def receiveLoop (platform : Platform) (wire : Wire) :
    Except Failure WebSocketReceiveResult × Wire :=
  match _h : (receiveTurn platform).exec wire with
  | (.ok none, wire') => receiveLoop platform wire'
  | (.ok (some result), wire') => (.ok result, wire')
  | (.error failure, wire') => (.error failure, wire')
termination_by wire.size
decreasing_by exact receiveTurn_goes_on _h

theorem receiveLoop_goes_on (h : (receiveTurn platform).exec wire = (.ok none, wire')) :
    receiveLoop platform wire = receiveLoop platform wire' := by
  conv_lhs => rw [receiveLoop]
  split
  · rename_i heq
    cases h.symm.trans heq
    rfl
  · rename_i heq
    cases h.symm.trans heq
  · rename_i heq
    cases h.symm.trans heq

theorem receiveLoop_ends (outcome : Except Failure WebSocketReceiveResult)
    (h : (receiveTurn platform).exec wire = (outcome.map some, wire')) :
    receiveLoop platform wire = (outcome, wire') := by
  rw [receiveLoop]
  cases outcome with
  | ok result =>
    split
    · rename_i heq
      cases h.symm.trans heq
    · rename_i heq
      cases h.symm.trans heq
      rfl
    · rename_i heq
      cases h.symm.trans heq
  | error failure =>
    split
    · rename_i heq
      cases h.symm.trans heq
    · rename_i heq
      cases h.symm.trans heq
    · rename_i heq
      cases h.symm.trans heq
      rfl

def receiveJson (platform : Platform) (wire : Wire) :
    Except Failure WebSocketReceiveResult × Wire :=
  if wire.client.connected then receiveLoop platform wire
  else (.error (.runtimeError "websocket is not connected"), wire)

/-- What a call comes back with. -/
abbrev Outcome := Except Failure WebSocketReceiveResult

/-- The outcome leaves the connection open: it is a message, or there is none yet. -/
def Outcome.goesOn : Outcome → Bool
  | .ok (.message _) => true
  | .ok .timeout => true
  | _ => false

/-- A number of calls, up to the one that ends the connection. -/
def calls (platform : Platform) : ℕ → Wire → List Outcome × Wire
  | 0, wire => ([], wire)
  | n + 1, wire =>
    let (outcome, wire') := receiveJson platform wire
    if Outcome.goesOn outcome then
      let (outcomes, last) := calls platform n wire'
      (outcome :: outcomes, last)
    else ([outcome], wire')

def Outcome.isTimeout : Outcome → Bool
  | .ok .timeout => true
  | _ => false

/-- The outcomes but for the timeouts. -/
def answers (outcomes : List Outcome) : List Outcome := outcomes.filter (!Outcome.isTimeout ·)

end WebSocketClient

end MineTeleop.WebSocket
