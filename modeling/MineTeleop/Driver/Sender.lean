import MineTeleop.Driver.Messages
import MineTeleop.Library.Documents
import MineTeleop.Library.Windows

/-!
# The native control sender

The driver console samples its intent store at a fixed pace and sends each sample over a WebSocket
of its own.  The sender is one thread; requests of the browser, the renewal of the lease and the end
of a session come from others and meet it between any two of its locks.  Here every region that one
lock guards is one event:

* of the sender: `takeSample`, `connect`, `transmit`, and `noteFailure`, `dropConnection` behind an
  exception;
* of the other threads: all the rest, in any order.

The spec of the longest region is `transmit_transmitted`; the laws of the runs are in
`Driver.SenderRuns` and `Driver.SenderStops`.
-/

namespace MineTeleop.Driver

open Runs
open Documents (Json)
open Service (Failure ProtocolMetadata)

/-! ## The window of acknowledgements -/

/-- Packets that were sent and have not been acknowledged, with the times of sending. -/
structure NativeControlAcknowledgementWindow where
  pending : List (ℕ × ℤ) := []

namespace NativeControlAcknowledgementWindow

def noteSent (w : NativeControlAcknowledgementWindow) (sequence : ℕ) (sentMonotonicMs : ℤ) :
    Except Failure NativeControlAcknowledgementWindow :=
  if sequence = 0 ∨ ∃ last ∈ w.pending.getLast?, sequence ≤ last.1 then
    .error (.invalidArgument "native control acknowledgement sequences must increase")
  else .ok ⟨w.pending ++ [(sequence, sentMonotonicMs)]⟩

def acknowledgeThrough (w : NativeControlAcknowledgementWindow) (sequence : ℕ) :
    NativeControlAcknowledgementWindow :=
  ⟨Windows.acknowledged sequence w.pending⟩

def oldestAgeMs (w : NativeControlAcknowledgementWindow) (nowMonotonicMs : ℤ) : ℤ :=
  match w.pending with
  | [] => 0
  | oldest :: _ => if nowMonotonicMs ≤ oldest.2 then 0 else nowMonotonicMs - oldest.2

end NativeControlAcknowledgementWindow

/-! ## The console -/

/-- What the URL of a control connection is made of. -/
structure ControlUrl where
  sessionId : String
  driverId : String
  deriving DecidableEq

/-- A control connection, with the packets that went out on it and the acknowledgements that came
back, the latest first. -/
structure ControlSocket where
  url : ControlUrl
  connected : Bool := true
  sent : List (ℕ × ℤ) := []
  acknowledged : List ℕ := []

/-- What the sender has captured under the locks of the intent store and of the session. -/
structure Packet where
  sessionId : String
  driverId : String
  controlToken : String
  driverToken : String
  vehicleId : String
  sequence : ℕ
  generation : ℕ
  sentAtUtcMs : ℤ
  sample : NativeControlIntentSample
  deriving DecidableEq

def Packet.message (p : Packet) : Media.NativeControlMessage :=
  nativeControlMessage
    { vehicleId := p.vehicleId
      driverId := p.driverId
      sessionId := p.sessionId
      seq := p.sequence
      sentAtUtcMs := p.sentAtUtcMs }
    p.controlToken p.sample

/-- Where the sender is. -/
inductive Sender where
  | waiting
  | sampled (packet : Packet)
  | connected (packet : Packet)
  | failed (sessionId : String) (generation : ℕ)
  | dropping
  deriving DecidableEq

structure DriverConsoleRuntime where
  driverId : String
  vehicleId : String
  driverToken : String := ""
  sessionId : String := ""
  controlToken : String := ""
  controlTokenExpiresAtMs : ℤ := 0
  controlSequence : ℕ := 0
  controlSessionGeneration : ℕ := 0
  nativeControlIntent : NativeControlIntentStore
  controlSignalingWebsocket : Option ControlSocket := none
  controlSignalingWebsocketSessionId : String := ""
  controlSignalingLastAckSeq : ℕ := 0
  controlSignalingAckWindow : NativeControlAcknowledgementWindow := {}
  controlSignalingNextConnectMonotonicMs : ℤ := 0
  controlSignalingReconnectDelayMs : ℤ := 100
  /-- The steady clock as last read under the lock of the connection. -/
  steadyMs : ℤ := 0
  sender : Sender := .waiting

/-- What a read of the connection without waiting gives. -/
inductive WebSocketReceiveResult where
  | timeout
  | closed
  | message (message : Json)
  | threw

namespace DriverConsoleRuntime

/-- Time passes until the clock is read again. -/
def elapsed (d : DriverConsoleRuntime) (ms : ℕ) : DriverConsoleRuntime :=
  { d with steadyMs := d.steadyMs + ms }

/-! ## A sample -/

def packetOf (d : DriverConsoleRuntime) (sample : NativeControlIntentSample) (sentAtUtcMs : ℤ) :
    Packet :=
  { sessionId := d.sessionId
    driverId := d.driverId
    controlToken := d.controlToken
    driverToken := d.driverToken
    vehicleId := d.vehicleId
    sequence := d.controlSequence + 1
    generation := d.controlSessionGeneration
    sentAtUtcMs := sentAtUtcMs
    sample := sample }

/-- `send_native_control_sample` up to the connection: the lease and the command are checked on
what has been captured. -/
def takeSample (d : DriverConsoleRuntime) (monotonicMs nowUtcMs sentAtUtcMs : ℤ) :
    DriverConsoleRuntime :=
  match d.nativeControlIntent.sample monotonicMs with
  | (.error _, store) => { d with nativeControlIntent := store }
  | (.ok none, store) => { d with nativeControlIntent := store }
  | (.ok (some sample), store) =>
    let d := { d with nativeControlIntent := store }
    if d.sessionId = "" ∨ d.driverToken = "" ∨ d.controlToken = "" then d
    else
      let packet := d.packetOf sample sentAtUtcMs
      let d := { d with controlSequence := packet.sequence }
      if d.controlTokenExpiresAtMs ≤ nowUtcMs then
        { d with sender := .failed packet.sessionId packet.generation }
      else
        match packet.message.command.validate with
        | .error _ => { d with sender := .failed packet.sessionId packet.generation }
        | .ok _ => { d with sender := .sampled packet }

/-! ## The connection -/

/-- An `expectedGeneration` of zero asks for the connection without a look at the session. -/
def connectControlSignalingWebsocket (d : DriverConsoleRuntime) (sessionId token : String)
    (expectedGeneration : ℕ) (accepted : Bool) : Except Failure Bool × DriverConsoleRuntime :=
  let url : ControlUrl := ⟨sessionId, d.driverId⟩
  if expectedGeneration ≠ 0 ∧ (d.sessionId ≠ sessionId ∨ d.driverToken ≠ token ∨
      d.controlSessionGeneration ≠ expectedGeneration) then
    (.ok false, d)
  else if expectedGeneration ≠ 0 ∧ d.steadyMs < d.controlSignalingNextConnectMonotonicMs then
    (.ok false, d)
  else if ∃ socket ∈ d.controlSignalingWebsocket, socket.connected = true ∧ socket.url = url ∧
      d.controlSignalingWebsocketSessionId = sessionId then
    (.ok true, d)
  else if accepted then
    (.ok true,
      { d with
        controlSignalingWebsocket := some { url := url }
        controlSignalingWebsocketSessionId := sessionId
        controlSignalingLastAckSeq := 0
        controlSignalingAckWindow := {}
        controlSignalingNextConnectMonotonicMs := 0 })
  else (.error (.runtimeError "websocket connect failed"), d)

def closeControlSignalingWebsocket (d : DriverConsoleRuntime) : DriverConsoleRuntime :=
  { d with
    controlSignalingWebsocket := none
    controlSignalingWebsocketSessionId := ""
    controlSignalingLastAckSeq := 0
    controlSignalingAckWindow := {}
    controlSignalingNextConnectMonotonicMs := 0
    controlSignalingReconnectDelayMs := 100 }

/-! ## A packet -/

/-- The sequence that a message acknowledges. -/
def acknowledgedSequence (message : Json) : Except String ℕ := do
  if message.contains "error" then
    .error "native control signaling message was rejected"
  else
    let event ← message.value "event" Json.getString ""
    Service.check (event = "signaling_ack") "native control signaling acknowledgement is invalid"
    let type ← message.value "type" Json.getString ""
    Service.check (type = "control_command") "native control signaling acknowledgement is invalid"
    message.value "seq" Json.getUint64 0

def acknowledge (d : DriverConsoleRuntime) (sequence : ℕ) : DriverConsoleRuntime :=
  let last := max d.controlSignalingLastAckSeq sequence
  { d with
    controlSignalingLastAckSeq := last
    controlSignalingAckWindow := d.controlSignalingAckWindow.acknowledgeThrough last
    controlSignalingWebsocket := d.controlSignalingWebsocket.map fun socket =>
      { socket with acknowledged := sequence :: socket.acknowledged } }

/-- The acknowledgements that have arrived, one read after the other. -/
def drainAcknowledgements (sequence : ℕ) : List WebSocketReceiveResult → DriverConsoleRuntime →
    Except Failure Unit × DriverConsoleRuntime
  | [], d => (.ok (), d)
  | .timeout :: _, d => (.ok (), d)
  | .closed :: _, d => (.error (.runtimeError "native control signaling websocket closed"), d)
  | .threw :: _, d => (.error (.runtimeError "websocket receive failed"), d)
  | .message message :: rest, d =>
    match acknowledgedSequence message with
    | .error what => (.error (.runtimeError what), d)
    | .ok acknowledged =>
      if acknowledged = 0 ∨ sequence < acknowledged then
        (.error (.runtimeError "native control signaling acknowledgement sequence is invalid"), d)
      else
        let d := d.acknowledge acknowledged
        match message.value "cloud_received_at_utc_ms" Json.getInt64 0 with
        | .error what => (.error (.runtimeError what), d)
        | .ok _ =>
          drainAcknowledgements sequence rest
            { d with
              controlSignalingNextConnectMonotonicMs := 0
              controlSignalingReconnectDelayMs := 100 }

/-- An exception has been caught. -/
def failing (d : DriverConsoleRuntime) (packet : Packet) : DriverConsoleRuntime :=
  { d with sender := .failed packet.sessionId packet.generation }

/-- The packet is on the wire. -/
def delivered (d : DriverConsoleRuntime) (packet : Packet) : DriverConsoleRuntime :=
  { d with
    controlSignalingWebsocket := d.controlSignalingWebsocket.map fun socket =>
      { socket with sent := (packet.sequence, d.steadyMs) :: socket.sent } }

/-- Behind the send: the window may still refuse the packet. -/
def noteDelivered (d : DriverConsoleRuntime) (packet : Packet) : DriverConsoleRuntime :=
  match d.controlSignalingAckWindow.noteSent packet.sequence d.steadyMs with
  | .error _ => (d.delivered packet).failing packet
  | .ok window =>
    { d.delivered packet with
      controlSignalingAckWindow := window
      sender := .waiting }

def stallMs : ℤ := 500

/-- The oldest packet has waited too long for its acknowledgement. -/
def Stalled (d : DriverConsoleRuntime) : Prop :=
  d.controlSignalingAckWindow.pending ≠ [] ∧
    stallMs ≤ d.controlSignalingAckWindow.oldestAgeMs d.steadyMs

instance (d : DriverConsoleRuntime) : Decidable d.Stalled := inferInstanceAs (Decidable (_ ∧ _))

/-- The packet still belongs to the session. -/
def Current (d : DriverConsoleRuntime) (packet : Packet) : Prop :=
  d.sessionId = packet.sessionId ∧ d.controlToken = packet.controlToken ∧
    d.controlSessionGeneration = packet.generation

instance (d : DriverConsoleRuntime) (packet : Packet) : Decidable (d.Current packet) :=
  inferInstanceAs (Decidable (_ ∧ _))

/-- A connection of the packet's session stands. -/
def Connected (d : DriverConsoleRuntime) (packet : Packet) : Prop :=
  (∃ socket ∈ d.controlSignalingWebsocket, socket.connected = true) ∧
    d.controlSignalingWebsocketSessionId = packet.sessionId

instance (d : DriverConsoleRuntime) (packet : Packet) : Decidable (d.Connected packet) :=
  inferInstanceAs (Decidable ((∃ _ ∈ _, _) ∧ _))

/-- The region of the connection's lock: acknowledgements are read, and the packet is sent unless
they have stalled.  The first component is the packet on the wire with the time of the decision. -/
def transmit (d : DriverConsoleRuntime) (packet : Packet) (received : List WebSocketReceiveResult)
    (drainMs sendMs : ℕ) (accepted : Bool) : Option (Packet × ℤ) × DriverConsoleRuntime :=
  if ¬d.Current packet then (none, { d with sender := .waiting })
  else if ¬d.Connected packet then (none, d.failing packet)
  else
    match drainAcknowledgements packet.sequence (received.take 16) d with
    | (.error _, d) => (none, d.failing packet)
    | (.ok (), d) =>
      let d := d.elapsed drainMs
      if d.Stalled then (none, d.failing packet)
      else if accepted = false then (none, (d.elapsed sendMs).failing packet)
      else (some (packet, d.steadyMs), (d.elapsed sendMs).noteDelivered packet)

/-- Behind the acknowledgements that `transmit` reads. -/
def drained (d : DriverConsoleRuntime) (packet : Packet)
    (received : List WebSocketReceiveResult) : DriverConsoleRuntime :=
  (drainAcknowledgements packet.sequence (received.take 16) d).2

/-- The failure belongs to the session that is open. -/
def Concerns (d : DriverConsoleRuntime) (sessionId : String) (generation : ℕ) : Prop :=
  d.sessionId = sessionId ∧ d.controlSessionGeneration = generation

instance (d : DriverConsoleRuntime) (sessionId : String) (generation : ℕ) :
    Decidable (d.Concerns sessionId generation) := inferInstanceAs (Decidable (_ ∧ _))

/-- `note_native_control_failure` up to the connection. -/
def invalidateIntent (d : DriverConsoleRuntime) : DriverConsoleRuntime :=
  { d with nativeControlIntent := d.nativeControlIntent.invalidate }

/-- The rest of it, under the lock of the connection. -/
def dropConnection (d : DriverConsoleRuntime) : DriverConsoleRuntime :=
  { d with
    controlSignalingWebsocket := none
    controlSignalingWebsocketSessionId := ""
    controlSignalingLastAckSeq := 0
    controlSignalingAckWindow := {}
    controlSignalingNextConnectMonotonicMs := d.steadyMs + d.controlSignalingReconnectDelayMs
    controlSignalingReconnectDelayMs := min (d.controlSignalingReconnectDelayMs * 2) 1000 }

/-! ## The other threads -/

def startGeneration (d : DriverConsoleRuntime) : DriverConsoleRuntime :=
  { d with
    controlSequence := 0
    controlSessionGeneration := d.controlSessionGeneration + 1 }

def clearSession (d : DriverConsoleRuntime) : DriverConsoleRuntime :=
  { d with
    sessionId := ""
    controlToken := ""
    controlTokenExpiresAtMs := 0 }

def updateIntent (d : DriverConsoleRuntime) (intent : NativeControlIntent) (monotonicMs : ℤ) :
    DriverConsoleRuntime :=
  { d with nativeControlIntent := (d.nativeControlIntent.update intent monotonicMs).2 }

def bootstrapIntent : NativeControlIntent :=
  { uiInstanceId := "native-session-bootstrap"
    intentSeq := 1 }

/-- `update_control_intent` takes the intents of the session that is open. -/
def Admits (d : DriverConsoleRuntime) (sessionId : String) (generation : ℕ) : Prop :=
  ¬(d.sessionId = "" ∨ d.driverToken = "" ∨ d.controlToken = "") ∧ d.Concerns sessionId generation

instance (d : DriverConsoleRuntime) (sessionId : String) (generation : ℕ) :
    Decidable (d.Admits sessionId generation) := inferInstanceAs (Decidable (¬_ ∧ _))

end DriverConsoleRuntime

/-! ## The console as a machine -/

namespace Console

/-- `elapsedMs` is the time since the clock was last read under the lock of the connection. -/
inductive Event where
  | takeSample (monotonicMs nowUtcMs sentAtUtcMs : ℤ)
  | connect (elapsedMs : ℕ) (accepted : Bool)
  | transmit (received : List WebSocketReceiveResult) (elapsedMs sendMs : ℕ) (accepted : Bool)
  | noteFailure
  | dropConnection (elapsedMs : ℕ)
  -- The regions of the other threads.
  | leaseFailed (sessionId : String) (generation : ℕ)
  | leaseDrops (elapsedMs : ℕ)
  | connectSession (sessionId token : String) (accepted : Bool)
  | disconnected
  | closeConnection
  | resetIntents
  | startGeneration
  | assignSession (vehicleId sessionId controlToken : String) (expiresAtMs : ℤ)
  | bootstrap (monotonicMs : ℤ)
  | clearSession
  | identify (driverId : String)
  | logIn (token : String)
  | logOut
  | renew (sessionId controlToken : String) (expiresAtMs : ℤ)
  | updateIntent (sessionId : String) (generation : ℕ) (intent : NativeControlIntent)
      (monotonicMs : ℤ)
  | status (monotonicMs : ℤ)

inductive Reply where
  | none
  | sampled (packet : Packet)
  | sent (packet : Packet) (decidedMs : ℤ)
  deriving DecidableEq

/-- A sample that goes on to the connection shows in the state of the sender. -/
def replyOf (d : DriverConsoleRuntime) : Reply :=
  match d.sender with
  | .sampled packet => .sampled packet
  | _ => .none

/-- What the sender does, if it stands where the event finds it. -/
def sends (d : DriverConsoleRuntime) : Event → Reply × DriverConsoleRuntime
  | .takeSample monotonicMs nowUtcMs sentAtUtcMs =>
    if d.sender = .waiting then
      let d := d.takeSample monotonicMs nowUtcMs sentAtUtcMs
      (replyOf d, d)
    else (.none, d)
  | .connect elapsedMs accepted =>
    match d.sender with
    | .sampled packet =>
      match (d.elapsed elapsedMs).connectControlSignalingWebsocket packet.sessionId
          packet.driverToken packet.generation accepted with
      | (.error _, d) => (.none, d.failing packet)
      | (.ok false, d) => (.none, { d with sender := .waiting })
      | (.ok true, d) => (.none, { d with sender := .connected packet })
    | _ => (.none, d)
  | .transmit received elapsedMs sendMs accepted =>
    match d.sender with
    | .connected packet =>
      match d.transmit packet received elapsedMs sendMs accepted with
      | (none, d) => (.none, d)
      | (some (packet, decidedMs), d) => (.sent packet decidedMs, d)
    | _ => (.none, d)
  | .noteFailure =>
    match d.sender with
    | .failed sessionId generation =>
      if d.Concerns sessionId generation then
        (.none, { d.invalidateIntent with sender := .dropping })
      else (.none, { d with sender := .waiting })
    | _ => (.none, d)
  | .dropConnection elapsedMs =>
    if d.sender = .dropping then
      (.none, { (d.elapsed elapsedMs).dropConnection with sender := .waiting })
    else (.none, d)
  | _ => (.none, d)

def respond (d : DriverConsoleRuntime) : Event → Reply × DriverConsoleRuntime
  | .leaseFailed sessionId generation =>
    (.none, if d.Concerns sessionId generation then d.invalidateIntent else d)
  | .leaseDrops elapsedMs => (.none, (d.elapsed elapsedMs).dropConnection)
  | .connectSession sessionId token accepted =>
    (.none, (d.connectControlSignalingWebsocket sessionId token 0 accepted).2)
  | .disconnected =>
    (.none,
      { d with
        controlSignalingWebsocket := d.controlSignalingWebsocket.map fun socket =>
          { socket with connected := false } })
  | .closeConnection => (.none, d.closeControlSignalingWebsocket)
  | .resetIntents => (.none, { d with nativeControlIntent := d.nativeControlIntent.reset })
  | .startGeneration => (.none, d.startGeneration)
  | .assignSession vehicleId sessionId controlToken expiresAtMs =>
    (.none,
      { d.startGeneration with
        vehicleId := vehicleId
        sessionId := sessionId
        controlToken := controlToken
        controlTokenExpiresAtMs := expiresAtMs })
  | .bootstrap monotonicMs => (.none, d.updateIntent DriverConsoleRuntime.bootstrapIntent monotonicMs)
  | .clearSession => (.none, d.clearSession)
  | .identify driverId =>
    (.none, if d.driverToken = "" ∧ d.sessionId = "" then { d with driverId := driverId } else d)
  | .logIn token => (.none, { d with driverToken := token })
  | .logOut => (.none, { d.clearSession with driverToken := "" })
  | .renew sessionId controlToken expiresAtMs =>
    (.none,
      if d.sessionId = sessionId ∧ d.controlToken = controlToken then
        { d with controlTokenExpiresAtMs := expiresAtMs }
      else d)
  | .updateIntent sessionId generation intent monotonicMs =>
    (.none,
      if d.Admits sessionId generation then d.updateIntent intent monotonicMs else d)
  | .status monotonicMs =>
    (.none, { d with nativeControlIntent := (d.nativeControlIntent.sample monotonicMs).2 })
  | e => sends d e

/-- What the console is made with. -/
structure Setup where
  driverId : String
  vehicleId : String
  leaseMs : ℤ
  lease : 100 ≤ leaseMs ∧ leaseMs ≤ 1000

def machine (setup : Setup) : Machine DriverConsoleRuntime Event Reply :=
  ⟨{ driverId := setup.driverId
     vehicleId := setup.vehicleId
     nativeControlIntent := { leaseMs := setup.leaseMs, lease := setup.lease } },
    respond⟩

abbrev ConsoleStep := Step DriverConsoleRuntime Event Reply
abbrev ConsoleHistory := History DriverConsoleRuntime Event Reply

end Console

end MineTeleop.Driver
