import MineTeleop.Library.Documents
import MineTeleop.WebSocket.Frames

/-!
# What is in a frame

The checks of a close frame and of a text frame, the same at both ends but for the exception that
they throw.  `checkClose_of_sent`: whatever `send_close` can send passes.
-/

namespace MineTeleop.WebSocket

open Documents
open Service (Failure)

/-! ## UTF-8 -/

def continuation (byte : UInt8) : Bool := 0x80 ≤ byte && byte ≤ 0xbf

def validThree (first second third : UInt8) : Bool :=
  continuation third &&
    (if first = 0xe0 then 0xa0 ≤ second && second ≤ 0xbf
    else if first = 0xed then 0x80 ≤ second && second ≤ 0x9f
    else continuation second)

def validFour (first second third fourth : UInt8) : Bool :=
  continuation third && continuation fourth &&
    (if first = 0xf0 then 0x90 ≤ second && second ≤ 0xbf
    else if first = 0xf4 then 0x80 ≤ second && second ≤ 0x8f
    else continuation second)

def validUtf8 : List UInt8 → Bool
  | [] => true
  | first :: rest =>
    if first ≤ 0x7f then validUtf8 rest
    else if 0xc2 ≤ first && first ≤ 0xdf then
      match rest with
      | second :: rest => continuation second && validUtf8 rest
      | _ => false
    else if 0xe0 ≤ first && first ≤ 0xef then
      match rest with
      | second :: third :: rest => validThree first second third && validUtf8 rest
      | _ => false
    else if 0xf0 ≤ first && first ≤ 0xf4 then
      match rest with
      | second :: third :: fourth :: rest => validFour first second third fourth && validUtf8 rest
      | _ => false
    else false

/-! ## Close frames -/

def validWebsocketCloseCode (code : ℕ) : Bool :=
  if 3000 ≤ code ∧ code ≤ 4999 then true
  else if code < 1000 ∨ 1014 < code then false
  else decide (code ≠ 1004 ∧ code ≠ 1005 ∧ code ≠ 1006)

/-- `validate_websocket_close_payload`; the client throws the same text as another exception. -/
def Rules.checkClose (rules : Rules) : List UInt8 → Except Failure Unit
  | [] => .ok ()
  | [_] => rules.refuse "websocket close payload must be empty or include a status code"
  | high :: low :: reason =>
    if validWebsocketCloseCode (Bytes.ofBigEndian [high, low]) = false then
      rules.refuse "invalid websocket close status code"
    else if validUtf8 reason = false then
      rules.refuse "websocket close reason must be valid UTF-8"
    else .ok ()

/-- The payload of `send_close`, and what it throws. -/
def closePayload (code : ℕ) (reason : List UInt8) : Except Failure (List UInt8) :=
  if validWebsocketCloseCode code = false then
    .error (.invalidArgument "invalid websocket close status code")
  else if 123 < reason.length then
    .error (.invalidArgument "websocket close reason is too long")
  else if validUtf8 reason = false then
    .error (.invalidArgument "websocket close reason must be valid UTF-8")
  else .ok (Bytes.bigEndian 2 code ++ reason)

theorem checkClose_of_sent (rules : Rules) {code : ℕ} {reason payload : List UInt8}
    (h : closePayload code reason = .ok payload) : rules.checkClose payload = .ok () := by
  unfold closePayload at h
  split at h
  · cases h
  rename_i hcode
  split at h
  · cases h
  split at h
  · cases h
  rename_i hreason
  cases h
  have hlt : code < 256 ^ 2 := by
    by_contra hlarge
    refine hcode ?_
    unfold validWebsocketCloseCode
    rw [if_neg (by omega), if_pos (by omega)]
  have hvalue : Bytes.ofBigEndian (Bytes.bigEndian 2 code) = code := by
    rw [Bytes.ofBigEndian_bigEndian, Nat.mod_eq_of_lt hlt]
  change rules.checkClose (_ :: _ :: reason) = .ok ()
  unfold Rules.checkClose
  change (if validWebsocketCloseCode (Bytes.ofBigEndian (Bytes.bigEndian 2 code)) = false then _
    else _) = _
  rw [hvalue, if_neg hcode, if_neg hreason]

/-! ## Text frames -/

/-- The JSON object of a text frame; `parse` is `Json::parse`, with the text of its exception. -/
def Rules.message (rules : Rules) (parse : List UInt8 → Except String Json) (frame : Frame) :
    Except Failure Json :=
  if frame.final = false then rules.refuse "fragmented websocket messages are not supported"
  else
    match parse frame.payload with
    | .error what => rules.refuse ("invalid websocket JSON: " ++ what)
    | .ok json =>
      if json.isObject then .ok json else rules.refuse "websocket message must be a JSON object"

inductive WebSocketReceiveResult where
  | message (json : Json)
  | timeout
  | closed

end MineTeleop.WebSocket
