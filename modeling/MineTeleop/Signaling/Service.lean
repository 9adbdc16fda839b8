import Mathlib.Data.Finset.Insert
import MineTeleop.Library.Program
import MineTeleop.Library.Tables
import MineTeleop.Service.Wire

/-!
# The state of the signaling server

Presences, tokens, approvals, sessions and mailboxes live in tables of their own.  A request works
on all of them under one lock; it reads clocks and random tokens and asks the audit sink to write
records.  A record that is not written throws, and what was done before the throw stays done.
-/

namespace MineTeleop.Signaling

open Documents Programs Tables
open Service (ProtocolMetadata)

/-! ## Configuration -/

structure SignalingServerConfig where
  driverPasswords : Table String
  deviceTokens : Table String
  driverVehiclePermissions : Table (List String)
  adminToken : String
  mobileAppPassword : String
  mobileApprovalVehicles : List String
  mobileApprovalTimeoutMs : ℤ
  approverTokenTtlMs : ℤ
  tokenTtlMs : ℤ
  controlTokenTtlMs : ℤ
  vehicleHeartbeatTimeoutMs : ℤ
  driverHeartbeatTimeoutMs : ℤ
  loginMaxFailures : ℤ
  loginFailureWindowMs : ℤ
  loginLockoutMs : ℤ
  apiRateLimitMaxSources : ℤ
  turnUrls : List String
  maxSignalingPayloadBytes : ℕ
  maxSdpBytes : ℕ
  maxIceCandidateBytes : ℕ
  signalingMessageTtlMs : ℤ
  nativeControlMessageTtlMs : ℤ

def SignalingServerConfig.Permits (config : SignalingServerConfig) (driverId vehicleId : String) :
    Prop :=
  ∃ vehicles ∈ config.driverVehiclePermissions.lookup driverId, vehicleId ∈ vehicles

instance (config : SignalingServerConfig) (driverId vehicleId : String) :
    Decidable (config.Permits driverId vehicleId) :=
  inferInstanceAs (Decidable (∃ vehicles ∈ config.driverVehiclePermissions.lookup driverId, _))

def SignalingServerConfig.RequiresApproval (config : SignalingServerConfig) (vehicleId : String) :
    Prop :=
  vehicleId ∈ config.mobileApprovalVehicles

instance (config : SignalingServerConfig) (vehicleId : String) :
    Decidable (config.RequiresApproval vehicleId) :=
  inferInstanceAs (Decidable (vehicleId ∈ config.mobileApprovalVehicles))

/-! ## Sessions -/

inductive SessionState where
  | offline
  | online
  | reserved
  | connecting
  | active
  | degraded
  | stopping
  | closed
  deriving DecidableEq

namespace SessionState

def text : SessionState → String
  | offline => "offline"
  | online => "online"
  | reserved => "reserved"
  | connecting => "connecting"
  | active => "active"
  | degraded => "degraded"
  | stopping => "stopping"
  | closed => "closed"

/-- The transitions that `transition_session` lets pass. -/
def Allowed (previous next : SessionState) : Prop :=
  (previous = online ∧ next = reserved) ∨
  (previous = reserved ∧ (next = connecting ∨ next = stopping ∨ next = closed)) ∨
  (previous = connecting ∧
    (next = active ∨ next = degraded ∨ next = stopping ∨ next = closed)) ∨
  (previous = active ∧ (next = degraded ∨ next = stopping ∨ next = closed)) ∨
  (previous = degraded ∧ (next = active ∨ next = stopping ∨ next = closed)) ∨
  (previous = stopping ∧ next = closed)

instance (previous next : SessionState) : Decidable (Allowed previous next) := by
  unfold Allowed
  infer_instance

end SessionState

/-- A session is stored under its id. -/
structure Session where
  vehicleId : String
  driverId : String
  startedAtUtcMs : ℤ
  state : SessionState
  controlToken : String
  controlTokenExpiresAtMs : ℤ
  deriving DecidableEq

def Session.Open (session : Session) : Prop := session.state ≠ .closed

instance (session : Session) : Decidable session.Open :=
  inferInstanceAs (Decidable (session.state ≠ .closed))

def Session.Participant (session : Session) (actor : String) : Prop :=
  actor = session.driverId ∨ actor = session.vehicleId

instance (session : Session) (actor : String) : Decidable (session.Participant actor) :=
  inferInstanceAs (Decidable (_ ∨ _))

/-! ## Presences, credentials and approvals -/

structure DriverToken where
  driverId : String
  expiresAtMs : ℤ
  connectionGeneration : ℕ
  deriving DecidableEq

structure ConnectionPresence where
  connectionId : String
  generation : ℕ
  connectedAtMs : ℤ
  lastSeenAtMs : ℤ
  deriving DecidableEq

structure LoginFailureState where
  failures : ℤ
  windowStartedAtMs : ℤ
  blockedUntilMs : ℤ
  deriving DecidableEq

/-- The states of an approval record. -/
inductive ApprovalState where
  | pending
  | approved
  | rejected
  | consumed
  | cancelled
  | expired
  deriving DecidableEq

def ApprovalState.text : ApprovalState → String
  | pending => "pending"
  | approved => "approved"
  | rejected => "rejected"
  | consumed => "consumed"
  | cancelled => "cancelled"
  | expired => "expired"

def ApprovalState.Live (state : ApprovalState) : Prop :=
  state = pending ∨ state = approved ∨ state = rejected

instance (state : ApprovalState) : Decidable state.Live :=
  inferInstanceAs (Decidable (_ ∨ _))

/-- An approval is stored under the id of its vehicle. -/
structure MobileApproval where
  requestId : String
  driverId : String
  state : ApprovalState
  decidedBy : String
  sessionId : String
  driverGeneration : ℕ
  vehicleGeneration : ℕ
  expiresAtMs : ℤ
  deadline : ℤ
  deriving DecidableEq

/-! ## Mailboxes -/

structure Message where
  metadata : ProtocolMetadata
  sender : String
  recipient : String
  type : String
  payload : Json
  queuedAtUtcMs : ℤ
  queuedAtMonotonicMs : ℤ
  deliveryCursor : ℕ
  deriving DecidableEq

/-- The times that the acknowledgement of a control command carries. -/
structure CloudTimes where
  receivedAtUtcMs : ℤ
  queuedAtUtcMs : ℤ
  ingressProcessingMs : ℤ
  deriving DecidableEq

structure Acknowledgement where
  queued : ℕ
  type : String
  seq : ℕ
  messageId : String
  deliveryCursor : ℕ
  duplicate : Bool
  cloud : Option CloudTimes
  deriving DecidableEq

/-- What the source serialises, one line each, to compare a message with the last accepted one. -/
structure Fingerprint where
  recipient : String
  type : String
  metadata : ProtocolMetadata
  payload : Json
  deriving DecidableEq

structure AcceptedMessage where
  sequence : ℕ
  fingerprint : Fingerprint
  acknowledgement : Acknowledgement
  deriving DecidableEq

/-- A message that has passed its checks. -/
structure Post where
  sessionId : String
  fingerprint : Fingerprint
  sender : String
  deriving DecidableEq

/-- A post with the message that was queued for it and the acknowledgement it was given. -/
structure Accepted where
  post : Post
  message : Message
  acknowledgement : Acknowledgement
  deriving DecidableEq

def messageKey (sessionId recipient : String) : String := sessionId ++ "\x1f" ++ recipient

/-! ## The service -/

structure SignalingService where
  driverTokens : Table DriverToken
  mobileApprovals : Table MobileApproval
  approverTokens : Table DriverToken
  onlineVehicles : Table ConnectionPresence
  onlineDrivers : Table ConnectionPresence
  revokedVehicles : Finset String
  revokedDrivers : Finset String
  sessions : Table Session
  messages : Table (List Message)
  latestControlMessages : Table Message
  lastAcceptedMessages : Table AcceptedMessage
  nextDeliveryCursors : Table ℕ
  loginFailures : Table LoginFailureState
  approverLoginLastCleanupMs : ℤ
  sessionCounter : ℕ
  connectionGeneration : ℕ
  deriving DecidableEq

def SignalingService.init : SignalingService where
  driverTokens := ∅
  mobileApprovals := ∅
  approverTokens := ∅
  onlineVehicles := ∅
  onlineDrivers := ∅
  revokedVehicles := ∅
  revokedDrivers := ∅
  sessions := ∅
  messages := ∅
  latestControlMessages := ∅
  lastAcceptedMessages := ∅
  nextDeliveryCursors := ∅
  loginFailures := ∅
  approverLoginLastCleanupMs := 0
  sessionCounter := 0
  connectionGeneration := 0

/-! ## Calls -/

structure AuditRecord where
  event : String
  details : List (String × Json)
  deriving DecidableEq

/-- What a request meets on its way: the clocks, the random tokens, the order in which the tables
are gone through, the sizes that documents have when they are written out, and whether the audit
sink writes the record that it is asked for next. -/
structure Circumstances where
  now : ℕ → ℤ
  steady : ℕ → ℤ
  random : ℕ → Option String
  sink : ℕ → Bool
  order : ℕ → List String → List String
  order_perm : ∀ n keys, (order n keys).Perm keys
  dumpSize : Json → ℕ

inductive Refusal where
  | unauthorized (what : String)
  | tooManyRequests (what : String) (retryAfterMs : ℤ)
  | serviceUnavailable (what : String)
  | notFound (what : String)
  | conflict (what issueCode : String)
  | invalidArgument (what : String)
  | logicError (what : String)
  | runtimeError (what : String)
  deriving DecidableEq

/-- The service in the middle of a call: the records it has asked for so far and whether they were
written, the messages it has accepted, and how often it has looked at its circumstances. -/
structure Call where
  service : SignalingService
  asked : List (AuditRecord × Bool)
  queued : List Accepted
  looks : ℕ
  deriving DecidableEq

def Call.start (service : SignalingService) : Call where
  service := service
  asked := []
  queued := []
  looks := 0

abbrev Handler (α : Type) := Program Call Refusal α

/-! ## What a handler is made of -/

def theService : Handler SignalingService := do
  let call ← get
  pure call.service

def update (f : SignalingService → SignalingService) : Handler Unit :=
  modify fun call => { call with service := f call.service }

/-- Look at one of the circumstances. -/
def look {α : Type} (reading : ℕ → α) : Handler α := do
  let call ← get
  modify fun call => { call with looks := call.looks + 1 }
  pure (reading call.looks)

section
variable (w : Circumstances)

def nowMs : Handler ℤ := look w.now

/-- The steady clock, in nanoseconds. -/
def steadyNow : Handler ℤ := look w.steady

def monotonicNowMs : Handler ℤ := do
  let ns ← steadyNow w
  pure (ns / 10 ^ 6)

def randomToken : Handler String := do
  match ← look w.random with
  | some token => pure token
  | none => throw (.runtimeError "OpenSSL RAND_bytes failed")

/-- The keys of a table in the order of a loop over it. -/
def loopOver {α : Type} (table : Table α) : Handler (List String) :=
  look fun n => w.order n table.keys

def audit (record : AuditRecord) : Handler Unit := do
  let call ← get
  modify fun call => { call with asked := call.asked ++ [(record, w.sink call.asked.length)] }
  refuseIf (w.sink call.asked.length = false)
    (.runtimeError "cannot append signaling audit log")

def tryAudit (record : AuditRecord) : Handler Bool :=
  tryCatch (do
    audit w record
    pure true) fun _ => pure false

end

/-! ## Rules -/

section
variable {w : Circumstances} {c : Call} {R : Refusal → Call → Prop}

@[simp] theorem ensures_theService {Q : SignalingService → Call → Prop} :
    Ensures theService c Q R ↔ Q c.service c := Iff.rfl

@[simp] theorem ensures_update (f : SignalingService → SignalingService)
    {Q : Unit → Call → Prop} :
    Ensures (update f) c Q R ↔ Q () { c with service := f c.service } := Iff.rfl

@[simp] theorem ensures_look {α : Type} (reading : ℕ → α) {Q : α → Call → Prop} :
    Ensures (look reading) c Q R ↔ Q (reading c.looks) { c with looks := c.looks + 1 } := Iff.rfl

theorem ensures_audit {record : AuditRecord} {Q : Unit → Call → Prop} :
    Ensures (audit w record) c Q R ↔
      if w.sink c.asked.length then Q () { c with asked := c.asked ++ [(record, true)] }
      else R (.runtimeError "cannot append signaling audit log")
        { c with asked := c.asked ++ [(record, false)] } := by
  unfold audit refuseIf
  simp only [ensures_bind, ensures_get, ensures_modify]
  cases w.sink c.asked.length with
  | true => exact Iff.rfl
  | false => exact Iff.rfl

theorem ensures_tryAudit {record : AuditRecord} {Q : Bool → Call → Prop} :
    Ensures (tryAudit w record) c Q R ↔
      Q (w.sink c.asked.length)
        { c with asked := c.asked ++ [(record, w.sink c.asked.length)] } := by
  unfold tryAudit
  rw [ensures_tryCatch, ensures_bind, ensures_audit]
  cases w.sink c.asked.length with
  | true => exact Iff.rfl
  | false => exact Iff.rfl

end

end MineTeleop.Signaling
