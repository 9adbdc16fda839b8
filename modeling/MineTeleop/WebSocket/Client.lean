import MineTeleop.Library.Program
import MineTeleop.WebSocket.Payloads

/-!
# The client end

`WebSocketClient::receive_json` and what it reads from: the socket as a list of what the reads of
it will meet.  The bytes of a frame are left in the buffer until the frame is whole.
-/

namespace MineTeleop.WebSocket

open Documents Programs
open Service (Failure)

/-! ## The socket -/

/-- What a read meets: some bytes, or none when the peer has closed; a deadline that passes before
there is anything to read; or an error. -/
inductive SocketEvent where
  | received (bytes : List UInt8)
  | expired
  | failed (error : String)
  deriving DecidableEq

/-- `WebSocketClient::Impl`, and the frames that it has sent, the latest first. -/
structure WebSocketClient where
  connected : Bool := true
  buffered : List UInt8 := []
  peerClosed : Bool := false
  sent : List (Opcode × List UInt8) := []

structure Wire where
  client : WebSocketClient
  events : List SocketEvent

/-- Why the socket does not take a frame. -/
inductive SendFailure where
  | closed
  | failed (error : String)
  | timedOut

def SendFailure.what : SendFailure → String
  | .closed => "websocket closed while sending"
  | .failed error => "websocket send failed: " ++ error
  | .timedOut => "websocket send timed out"

/-- `Json::parse`, and what becomes of each attempt to send. -/
structure Platform where
  parse : List UInt8 → Except String Json
  refusal : ℕ → Option SendFailure

namespace WebSocketClient

/-- `read_more`, for what it meets. -/
def readMore (client : WebSocketClient) : SocketEvent → Except Failure Bool × WebSocketClient
  | .received [] => (.ok false, { client with peerClosed := true })
  | .received bytes => (.ok true, { client with buffered := client.buffered ++ bytes })
  | .expired => (.ok false, client)
  | .failed error => (.error (.runtimeError ("websocket receive failed: " ++ error)), client)

/-- A socket on which nothing more happens lets the deadline pass. -/
def ensureFrom (size : ℕ) (client : WebSocketClient) :
    List SocketEvent → Except Failure Bool × Wire
  | [] => (.ok (decide (size ≤ client.buffered.length)), ⟨client, []⟩)
  | event :: events =>
    if size ≤ client.buffered.length then (.ok true, ⟨client, event :: events⟩)
    else
      match client.readMore event with
      | (.ok true, client) => ensureFrom size client events
      | (ended, client) => (ended, ⟨client, events⟩)

def ensureBytes (size : ℕ) : Program Wire Failure Bool :=
  ExceptT.mk fun wire => ensureFrom size wire.client wire.events

/-! ## Frames -/

def checked {α : Type} : Except Failure α → Program Wire Failure α
  | .ok a => return a
  | .error failure => throw failure

def incomplete : Failure := .runtimeError "incomplete websocket frame"

def requireBytes (size : ℕ) : Program Wire Failure Unit := do
  if ← ensureBytes size then return () else throw incomplete

def buffer : Program Wire Failure (List UInt8) := do
  return (← get).client.buffered

def eraseBytes (size : ℕ) : Program Wire Failure Unit :=
  modify fun wire =>
    { wire with client := { wire.client with buffered := wire.client.buffered.drop size } }

/-- The frame whose first two bytes are in the buffer. -/
def readBegun : Program Wire Failure Frame := do
  let begun ← buffer
  let first := begun.getD 0 0
  let second := begun.getD 1 0
  let opcode ← checked (rules.checkHeader first second)
  let headerSize := 2 + extendedSize second
  requireBytes headerSize
  let header ← buffer
  let length ← checked (rules.payloadSize second ((header.drop 2).take (extendedSize second)))
  checked (rules.checkSize first opcode length)
  checked (if 2 ^ 64 - 1 - headerSize < length then
    .error (.runtimeError "websocket frame length is unsupported") else .ok ())
  requireBytes (headerSize + length)
  let whole ← buffer
  eraseBytes (headerSize + length)
  return ⟨decide (first &&& 0x80 ≠ 0), opcode, (whole.drop headerSize).take length⟩

def readFrame : Program Wire Failure (Option Frame) := do
  if ← ensureBytes 2 then
    let frame ← readBegun
    return some frame
  else return none

/-! ## Messages -/

variable (platform : Platform)

def send (opcode : Opcode) (payload : List UInt8) : Program Wire Failure Unit := do
  let attempts := (← get).client.sent.length
  modify fun wire =>
    { wire with client := { wire.client with sent := (opcode, payload) :: wire.client.sent } }
  match platform.refusal attempts with
  | none => return ()
  | some failure => throw (.runtimeError failure.what)

/-- `close`: the frame with status 1000 goes out where it can, and the connection is given up. -/
def close : Program Wire Failure Unit :=
  modify fun wire =>
    { wire with
      client :=
        { connected := false
          sent := (.close, Bytes.bigEndian 2 1000) :: wire.client.sent } }

/-- What becomes of a frame; `none` where the loop of `receive_json` goes on. -/
def handle (frame : Frame) : Program Wire Failure (Option WebSocketReceiveResult) :=
  match frame.opcode with
  | .close => do
    checked (rules.checkClose frame.payload)
    close
    return some .closed
  | .ping => do
    send platform .pong frame.payload
    return none
  | .pong => return none
  | .text => do
    let json ← checked (rules.message platform.parse frame)
    return some (.message json)

/-- What a call returns when a read has brought no frame. -/
def giveUp : Program Wire Failure (Option WebSocketReceiveResult) := do
  if (← get).client.peerClosed then
    close
    return some .closed
  else return some .timeout

/-- One turn of the loop. -/
def receiveTurn : Program Wire Failure (Option WebSocketReceiveResult) := do
  match ← readFrame with
  | none => giveUp
  | some frame => handle platform frame

end WebSocketClient

end MineTeleop.WebSocket
