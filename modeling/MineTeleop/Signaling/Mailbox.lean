import Mathlib.Data.List.SplitOn
import MineTeleop.Signaling.Sessions

/-!
# Mailboxes

Taking, acknowledging and queueing the messages of a session.  The control commands of a recipient
have one place, which a newer command takes over; all other messages wait in a queue.
-/

namespace MineTeleop.Signaling

open Documents Programs Tables
open Service (ProtocolMetadata ControlCommand)

/-! ## Readings of a request -/

def requiredString (value : Json) (key : String) : Except Refusal String :=
  match value.find? key with
  | some (.string text) =>
    if text = "" then .error (.invalidArgument (key ++ " must be a non-empty string"))
    else .ok text
  | _ => .error (.invalidArgument (key ++ " must be a non-empty string"))

def optionalString (value : Json) (key : String) : Except Refusal String :=
  match value.find? key with
  | none | some .null => .ok ""
  | some (.string text) => .ok text
  | some _ => .error (.invalidArgument (key ++ " must be a string"))

def digits? (chars : List Char) : Option ℕ :=
  if chars = [] ∨ ¬chars.all Char.isDigit then none
  else some (chars.foldl (fun value digit => 10 * value + (digit.toNat - 48)) 0)

/-- `std::stoull`, where it takes the whole text: white space, a sign, and digits; a negative
number wraps around. -/
def stoull? (text : String) : Option ℕ :=
  let isSpace := fun c : Char => c = ' ' ∨ ('\t' ≤ c ∧ c ≤ '\r')
  let chars := text.toList.dropWhile isSpace
  let signed := fun rest => (digits? rest).bind fun value =>
    if value < 2 ^ 64 then some value else none
  match chars with
  | '-' :: rest => (signed rest).map fun value => (2 ^ 64 - value) % 2 ^ 64
  | '+' :: rest => signed rest
  | rest => signed rest

def requiredUint64 (value : Json) (key : String) : Except Refusal ℕ :=
  match value.find? key with
  | none => .error (.invalidArgument (key ++ " is required"))
  | some (.integer number) =>
    if 0 ≤ number then .ok number.toNat
    else .error (.invalidArgument (key ++ " must be a positive integer"))
  | some (.string text) =>
    match stoull? text with
    | some (number + 1) => .ok (number + 1)
    | _ => .error (.invalidArgument (key ++ " must be a positive integer"))
  | some _ => .error (.invalidArgument (key ++ " must be a positive integer"))

/-- The exceptions of a protocol document are answered as invalid arguments. -/
def protocolDocument {α : Type} : Except String α → Except Refusal α
  | .ok a => .ok a
  | .error what => .error (.invalidArgument what)

def trim (chars : List Char) : List Char :=
  ((chars.dropWhile Char.isWhitespace).reverse.dropWhile Char.isWhitespace).reverse

/-- The types that a comma separated list asks for; an empty list asks for all. -/
def requestedTypes (requested : String) : List String :=
  (((requested.toList.splitOn ',').map trim).filter fun part => part ≠ []).map String.ofList

def Requested (requested type : String) : Prop :=
  requested = "" ∨ type ∈ requestedTypes requested

instance (requested type : String) : Decidable (Requested requested type) :=
  inferInstanceAs (Decidable (_ ∨ _))

section
variable (config : SignalingServerConfig) (w : Circumstances)

def validateActorCredential (session : Session) (actor : String) (value : Json) :
    Handler Unit := do
  if actor = session.driverId then
    validateDriverToken w actor (← liftResult (optionalString value "token"))
  else if actor = session.vehicleId then
    let generation ← liftResult (requiredUint64 value "connection_generation")
    validateVehicleConnection config w actor (← liftResult (optionalString value "device_token"))
      generation
  else throw (.unauthorized "actor is not current session participant")

def validateMessageMetadata (sessionId : String) (session : Session)
    (metadata : ProtocolMetadata) : Except Refusal Unit := do
  protocolDocument metadata.validate
  rejectIf (metadata.vehicleId ≠ session.vehicleId ∨ metadata.driverId ≠ session.driverId ∨
      metadata.sessionId ≠ sessionId)
    (.unauthorized "protocol metadata does not match current session")

/-! ## Taking -/

namespace SignalingService

/-- The mailboxes without what has waited for too long. -/
def expireMessages (config : SignalingServerConfig) (service : SignalingService)
    (recipientKey : String) (monotonicMs : ℤ) : SignalingService :=
  let fresh := fun message : Message =>
    monotonicMs - message.queuedAtMonotonicMs < config.signalingMessageTtlMs
  let kept := ((service.messages.lookup recipientKey).getD []).filter fresh
  { service with
    latestControlMessages := service.latestControlMessages.eraseIf fun key message =>
      key = recipientKey ∧
        config.nativeControlMessageTtlMs ≤ monotonicMs - message.queuedAtMonotonicMs
    messages :=
      if kept = [] then service.messages.erase recipientKey
      else service.messages.insert recipientKey kept }

def pendingControl (service : SignalingService) (recipientKey requested : String) :
    List Message :=
  match service.latestControlMessages.lookup recipientKey with
  | some message => if Requested requested "control_command" then [message] else []
  | none => []

def pendingOrdinary (service : SignalingService) (recipientKey requested : String) :
    List Message :=
  ((service.messages.lookup recipientKey).getD []).filter fun message =>
    Requested requested message.type

/-- The mailboxes without what is asked for. -/
def consumeMessages (service : SignalingService) (recipientKey requested : String) :
    SignalingService :=
  let kept := ((service.messages.lookup recipientKey).getD []).filter fun message =>
    ¬Requested requested message.type
  { service with
    latestControlMessages := service.latestControlMessages.eraseIf fun key _ =>
      key = recipientKey ∧ Requested requested "control_command"
    messages :=
      if kept = [] then service.messages.erase recipientKey
      else service.messages.insert recipientKey kept }

end SignalingService

def takeSignalingMessages (sessionId recipient requested : String) (consume : Bool) :
    Handler (List Message) := do
  let recipientKey := messageKey sessionId recipient
  let monotonicMs ← monotonicNowMs w
  update (·.expireMessages config recipientKey monotonicMs)
  let service ← theService
  whenever (consume = true) (update (·.consumeMessages recipientKey requested))
  pure ((service.pendingControl recipientKey requested ++
    service.pendingOrdinary recipientKey requested).mergeSort
      fun left right => left.deliveryCursor ≤ right.deliveryCursor)

/-! ## Acknowledging -/

def SignalingService.acknowledge (service : SignalingService) (recipientKey : String)
    (deliveryCursor : ℕ) (controlOnly : Bool) : SignalingService :=
  let kept := ((service.messages.lookup recipientKey).getD []).filter fun message =>
    deliveryCursor < message.deliveryCursor
  { service with
    messages :=
      if controlOnly then service.messages
      else if kept = [] then service.messages.erase recipientKey
      else service.messages.insert recipientKey kept
    latestControlMessages := service.latestControlMessages.eraseIf fun key message =>
      key = recipientKey ∧ message.deliveryCursor ≤ deliveryCursor }

/-- How many messages of the recipient wait. -/
def SignalingService.waiting (service : SignalingService) (recipientKey : String) : ℕ :=
  ((service.messages.lookup recipientKey).getD []).length +
    (service.latestControlMessages.lookup recipientKey).toList.length

def acknowledgeSignalingMessages (sessionId recipient : String) (deliveryCursor : ℕ)
    (controlOnly : Bool) : Handler ℕ := do
  let recipientKey := messageKey sessionId recipient
  let before := (← theService).waiting recipientKey
  update (·.acknowledge recipientKey deliveryCursor controlOnly)
  pure (before - (← theService).waiting recipientKey)

/-! ## Queueing -/

def messageTypes : List String :=
  ["webrtc_offer", "webrtc_answer", "ice_candidate", "media_capabilities", "media_fallback",
    "connection_status", "telemetry", "media_status", "session_event", "control_command"]

/-- The checks of who sends what to whom. -/
def checkRoute (session : Session) (sender recipient type : String) : Except Refusal Unit := do
  rejectIf (recipient ≠ session.driverId ∧ recipient ≠ session.vehicleId)
    (.unauthorized "recipient is not current session participant")
  rejectIf (sender = recipient)
    (.unauthorized "signaling messages must target the other session participant")
  let driverToVehicle := sender = session.driverId ∧ recipient = session.vehicleId
  let vehicleToDriver := sender = session.vehicleId ∧ recipient = session.driverId
  rejectIf (type ∈ ["media_capabilities", "media_fallback", "webrtc_answer"] ∧ ¬driverToVehicle)
    (.unauthorized (type ++ " route is invalid"))
  rejectIf (type = "webrtc_offer" ∧ ¬vehicleToDriver)
    (.unauthorized "webrtc_offer route is invalid")
  rejectIf (type = "control_command" ∧ ¬driverToVehicle)
    (.unauthorized "control_command route is invalid")
  rejectIf (type = "ice_candidate" ∧ ¬driverToVehicle ∧ ¬vehicleToDriver)
    (.unauthorized "ice_candidate route is invalid")

def checkDescription (config : SignalingServerConfig) (type : String) (payload : Json) :
    Except Refusal Unit := do
  let sdp ← requiredString payload "sdp"
  rejectIf (config.maxSdpBytes < sdp.utf8ByteSize)
    (.invalidArgument "WebRTC SDP exceeds configured limit")
  let described ← protocolDocument (payload.value "type" Json.getString "")
  rejectIf (described ≠ if type = "webrtc_offer" then "offer" else "answer")
    (.invalidArgument "WebRTC SDP type does not match signaling message type")

def checkCandidate (config : SignalingServerConfig) (payload : Json) : Except Refusal Unit := do
  let candidate ← requiredString payload "candidate"
  rejectIf (config.maxIceCandidateBytes < candidate.utf8ByteSize)
    (.invalidArgument "WebRTC ICE candidate exceeds configured limit")

def checkControl (session : Session) (metadata : ProtocolMetadata) (payload : Json) :
    Except Refusal Unit := do
  let command ← protocolDocument (ControlCommand.fromJson payload)
  let intentSeq ← requiredUint64 payload "intent_seq"
  rejectIf (intentSeq = 0) (.invalidArgument "intent_seq must be positive")
  rejectIf ((payload.find? "intent_fresh").any Json.isBoolean = false)
    (.invalidArgument "intent_fresh must be a boolean")
  rejectIf (command.toProtocolMetadata ≠ metadata)
    (.invalidArgument "control command payload metadata does not match signaling wrapper")
  rejectIf (command.controlToken ≠ session.controlToken)
    (.unauthorized "control command token does not match active session")

def checkPayload (config : SignalingServerConfig) (dumpSize : Json → ℕ) (session : Session)
    (metadata : ProtocolMetadata) (type : String) (payload : Json) : Except Refusal Unit := do
  rejectIf (payload.isObject = false) (.invalidArgument "payload must be an object")
  rejectIf (config.maxSignalingPayloadBytes < dumpSize payload)
    (.invalidArgument "signaling payload exceeds configured limit")
  if type = "webrtc_offer" ∨ type = "webrtc_answer" then checkDescription config type payload
  else if type = "ice_candidate" then checkCandidate config payload
  else if type = "control_command" then checkControl session metadata payload
  else .ok ()

/-- The channel that a message is numbered on. -/
def sequenceKey (sessionId sender : String) (type : String) : String :=
  messageKey sessionId sender ++ (if type = "control_command" then ":native_control" else "")

inductive SequenceVerdict where
  | older
  | reused
  | retry (acknowledgement : Acknowledgement)
  | next

def judgeSequence (accepted : Option AcceptedMessage) (seq : ℕ) (fingerprint : Fingerprint) :
    SequenceVerdict :=
  match accepted with
  | none => .next
  | some accepted =>
    if seq < accepted.sequence then .older
    else if seq = accepted.sequence then
      if fingerprint ≠ accepted.fingerprint then .reused
      else .retry { accepted.acknowledgement with duplicate := true }
    else .next

namespace Post

def type (post : Post) : String := post.fingerprint.type
def seq (post : Post) : ℕ := post.fingerprint.metadata.seq
def recipientKey (post : Post) : String := messageKey post.sessionId post.fingerprint.recipient
def sequenceKey (post : Post) : String :=
  Signaling.sequenceKey post.sessionId post.sender post.type

def details (post : Post) : List (String × Json) :=
  [("session_id", .string post.sessionId),
    ("vehicle_id", .string post.fingerprint.metadata.vehicleId),
    ("driver_id", .string post.fingerprint.metadata.driverId),
    ("seq", .integer post.seq), ("sender", .string post.sender),
    ("recipient", .string post.fingerprint.recipient)]

end Post

/-- A WebSocket has named its participant before; a request brings the credential along. -/
def authenticateSender (session : Session) (sender : String) (value : Json) :
    Option String → Handler Unit
  | some actor => refuseIf (sender ≠ actor)
    (.unauthorized "sender is not authenticated websocket participant")
  | none => validateActorCredential config w session sender value

/-- The checks of `enqueue_signaling_message`. -/
def admitMessage (sessionId : String) (value : Json) (authenticatedActor : Option String) :
    Handler Post := do
  let sender ← liftResult (requiredString value "sender")
  let recipient ← liftResult (requiredString value "recipient")
  let type ← liftResult (requiredString value "type")
  refuseIf (type ∉ messageTypes) (.invalidArgument "unsupported signaling message type")
  let session ← requireParticipant sessionId sender
  authenticateSender config w session sender value authenticatedActor
  let metadata ← liftResult (protocolDocument (ProtocolMetadata.fromJson value))
  liftResult (validateMessageMetadata sessionId session metadata)
  liftResult (checkRoute session sender recipient type)
  let payload := (value.find? "payload").getD (.object [])
  liftResult (checkPayload config w.dumpSize session metadata type payload)
  pure ⟨sessionId, ⟨recipient, type, metadata, payload⟩, sender⟩

namespace SignalingService

def cursorAfter (service : SignalingService) (recipientKey : String) : ℕ :=
  (service.nextDeliveryCursors.lookup recipientKey).getD 0 + 1

def countDelivery (service : SignalingService) (recipientKey : String) : SignalingService :=
  { service with
    nextDeliveryCursors :=
      service.nextDeliveryCursors.insert recipientKey (service.cursorAfter recipientKey) }

/-- The mailbox of the recipient with one more message. -/
def deliver (service : SignalingService) (post : Post) (message : Message) : SignalingService :=
  if post.type = "control_command" then
    { service with
      latestControlMessages := service.latestControlMessages.insert post.recipientKey message }
  else
    { service with
      messages := service.messages.insert post.recipientKey
        ((service.messages.lookup post.recipientKey).getD [] ++ [message]) }

/-- How many messages the acknowledgement says are queued. -/
def queuedFor (service : SignalingService) (post : Post) : ℕ :=
  if post.type = "control_command" then 1
  else ((service.messages.lookup post.recipientKey).getD []).length

def remember (service : SignalingService) (post : Post) (acknowledgement : Acknowledgement) :
    SignalingService :=
  { service with
    lastAcceptedMessages := service.lastAcceptedMessages.insert post.sequenceKey
      ⟨post.seq, post.fingerprint, acknowledgement⟩ }

end SignalingService

/-- A message with a new sequence number goes into the mailbox. -/
def queueMessage (receivedAtUtcMs receivedMonotonicMs : ℤ) (post : Post) :
    Handler Acknowledgement := do
  let deliveryCursor := (← theService).cursorAfter post.recipientKey
  update (·.countDelivery post.recipientKey)
  let queuedAtUtcMs ← nowMs w
  let queuedMonotonicMs ← monotonicNowMs w
  let message : Message := {
    metadata := post.fingerprint.metadata
    sender := post.sender
    recipient := post.fingerprint.recipient
    type := post.type
    payload := post.fingerprint.payload
    queuedAtUtcMs := queuedAtUtcMs
    queuedAtMonotonicMs := queuedMonotonicMs
    deliveryCursor := deliveryCursor }
  update (·.deliver post message)
  let acknowledgement : Acknowledgement := {
    queued := (← theService).queuedFor post
    type := post.type
    seq := post.seq
    messageId := post.sessionId ++ ":" ++ post.sender ++ ":" ++ toString post.seq
    deliveryCursor := deliveryCursor
    duplicate := false
    cloud := if post.type = "control_command" then
        some ⟨receivedAtUtcMs, queuedAtUtcMs, max 0 (queuedMonotonicMs - receivedMonotonicMs)⟩
      else none }
  update (·.remember post acknowledgement)
  modify fun call => { call with queued := call.queued ++ [⟨post, message, acknowledgement⟩] }
  whenever (post.type ≠ "control_command") (audit w ⟨post.type, post.details⟩)
  pure acknowledgement

/-- What the sequence number of a post makes of it. -/
def acceptPost (receivedAtUtcMs receivedMonotonicMs : ℤ) (post : Post) :
    SequenceVerdict → Handler Acknowledgement
  | .older =>
    throw (.conflict "signaling message sequence is older than the previous message"
      "signaling_sequence_older")
  | .reused =>
    throw (.conflict "signaling message sequence was reused with different content"
      "signaling_sequence_reused")
  | .retry acknowledgement => do
    audit w ⟨"signaling_retry_acknowledged", post.details ++
      [("message_id", .string acknowledgement.messageId)]⟩
    pure acknowledgement
  | .next => queueMessage w receivedAtUtcMs receivedMonotonicMs post

def SignalingService.verdict (service : SignalingService) (post : Post) : SequenceVerdict :=
  judgeSequence (service.lastAcceptedMessages.lookup post.sequenceKey) post.seq post.fingerprint

def enqueueSignalingMessage (sessionId : String) (value : Json)
    (authenticatedActor : Option String) : Handler Acknowledgement := do
  let receivedAtUtcMs ← nowMs w
  let receivedMonotonicMs ← monotonicNowMs w
  let post ← admitMessage config w sessionId value authenticatedActor
  acceptPost w receivedAtUtcMs receivedMonotonicMs post ((← theService).verdict post)

end

end MineTeleop.Signaling
