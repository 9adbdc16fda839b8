import MineTeleop.Library.Runs
import MineTeleop.Signaling.Mailbox

/-!
# The requests of the signaling server

One handler for each route, the turns of a WebSocket connection, and the machine that takes them
in any order.
-/

namespace MineTeleop.Signaling

open Documents Programs Tables Runs
open Service (ProtocolMetadata)

/-! ## Answers -/

inductive Answer where
  | document (body : Json)
  | login (token : String) (expiresAtMs : ℤ) (connectionGeneration : ℕ)
  | approverLogin (token : String) (expiresAtMs : ℤ)
  | presence (id state : String) (connectionGeneration : ℕ) (lastSeenAtMs : ℤ)
  | approval (vehicleId : String) (approval : MobileApproval)
  | approvals (records : List (String × MobileApproval))
  | session (sessionId : String) (session : Option Session)
  | messages (pending : List Message)
  | acknowledgement (acknowledgement : Acknowledgement)
  | delivery (deliveryCursor : ℕ) (delivered : List Message)
  | acknowledged (deliveryCursor count : ℕ)
  | idle
  deriving DecidableEq

def Answer.state (key id state : String) : Answer :=
  .document (.object [(key, .string id), ("state", .string state)])

section
variable (config : SignalingServerConfig) (w : Circumstances)

/-! ## Failed logins -/

/-- `approver:` with the source of the request, `driver:` with a known driver, or `unknown`. -/
def loginBucket (id : String) (approver : Bool) : String :=
  if approver then "approver:" ++ id
  else if (config.driverPasswords.lookup id).isSome then "driver:" ++ id
  else "unknown"

def approverLoginBucket (source : String) (timestampMs : ℤ) : Handler String := do
  let service ← theService
  whenever (service.approverLoginLastCleanupMs = 0 ∨
      timestampMs < service.approverLoginLastCleanupMs ∨
      config.loginFailureWindowMs ≤ timestampMs - service.approverLoginLastCleanupMs) do
    update fun s => { s with
      loginFailures := s.loginFailures.eraseIf fun bucket state =>
        bucket.startsWith "approver:" &&
          if 0 < state.blockedUntilMs then state.blockedUntilMs ≤ timestampMs
          else config.loginFailureWindowMs ≤ timestampMs - state.windowStartedAtMs
      approverLoginLastCleanupMs := timestampMs }
  let failures := (← theService).loginFailures
  if (failures.lookup ("approver:" ++ source)).isSome then pure source
  else
    let sources := failures.keys.filter fun bucket =>
      bucket.startsWith "approver:" && bucket ≠ "approver:<overflow>"
    pure (if sources.length < config.apiRateLimitMaxSources then source else "<overflow>")

def enforceLoginRateLimit (id : String) (timestampMs : ℤ) (approver : Bool) : Handler Unit := do
  let bucket := loginBucket config id approver
  match (← theService).loginFailures.lookup bucket with
  | none => pure ()
  | some state =>
    refuseIf (timestampMs < state.blockedUntilMs)
      (.tooManyRequests "too many login attempts" (state.blockedUntilMs - timestampMs))
    whenever (0 < state.blockedUntilMs ∨
        config.loginFailureWindowMs ≤ timestampMs - state.windowStartedAtMs) do
      update fun s => { s with loginFailures := s.loginFailures.erase bucket }

/-- The state of a bucket after one more failure. -/
def LoginFailureState.failed (state : Option LoginFailureState) (timestampMs : ℤ) :
    LoginFailureState :=
  let current := state.getD ⟨0, 0, 0⟩
  let counted : LoginFailureState :=
    if current.windowStartedAtMs = 0 ∨
        config.loginFailureWindowMs ≤ timestampMs - current.windowStartedAtMs then
      ⟨1, timestampMs, 0⟩
    else { current with failures := current.failures + 1 }
  if config.loginMaxFailures ≤ counted.failures then
    { counted with blockedUntilMs := min (2 ^ 63 - 1) (timestampMs + config.loginLockoutMs) }
  else counted

def recordLoginFailure (id : String) (timestampMs : ℤ) (approver : Bool) : Handler Unit := do
  let bucket := loginBucket config id approver
  let state := LoginFailureState.failed config ((← theService).loginFailures.lookup bucket)
    timestampMs
  update fun s => { s with loginFailures := s.loginFailures.insert bucket state }
  let known := !approver && (config.driverPasswords.lookup id).isSome
  let details := [
    (if approver then "approver_id" else "driver_id",
      Json.string (if known then id else "<unknown>")),
    (if approver then "recognized_approver" else "recognized_driver", .boolean known)] ++
    (if approver then [("source_address", .string id)] else []) ++
    [("failure_count", .integer state.failures)]
  audit w ⟨if approver then "approver_login_failed" else "driver_login_failed",
    details ++ [("failure_limit", .integer config.loginMaxFailures)]⟩
  whenever (config.loginMaxFailures ≤ state.failures) do
    audit w ⟨if approver then "approver_login_rate_limited" else "driver_login_rate_limited",
      details ++ [("blocked_until_utc_ms", .integer state.blockedUntilMs)]⟩
    throw (.tooManyRequests "too many login attempts" config.loginLockoutMs)

/-! ## Administration -/

def administer (body : Json) : Handler String := do
  refuseIf (config.adminToken = "") (.unauthorized "admin API is disabled")
  let adminToken ← liftResult (optionalString body "admin_token")
  refuseIf (adminToken ≠ config.adminToken) (.unauthorized "invalid admin token")
  liftResult (requiredString body "id")

def requireKnown (table : Table String) (id what : String) : Handler Unit :=
  refuseIf (table.lookup id = none) (.notFound what)

def revokeDriver (body : Json) : Handler Answer := do
  let driverId ← administer config body
  requireKnown config.driverPasswords driverId "unknown driver"
  update fun s => { s with revokedDrivers := insert driverId s.revokedDrivers }
  closeSessionsForDriver w driverId "driver_revoked"
  update fun s => { s with
    onlineDrivers := s.onlineDrivers.erase driverId
    driverTokens := s.driverTokens.eraseIf fun _ token => token.driverId = driverId }
  audit w ⟨"driver_revoked", [("driver_id", .string driverId)]⟩
  pure (.state "driver_id" driverId "revoked")

def restoreDriver (body : Json) : Handler Answer := do
  let driverId ← administer config body
  requireKnown config.driverPasswords driverId "unknown driver"
  update fun s => { s with revokedDrivers := s.revokedDrivers.erase driverId }
  audit w ⟨"driver_restored", [("driver_id", .string driverId)]⟩
  pure (.state "driver_id" driverId "offline")

def revokeVehicle (body : Json) : Handler Answer := do
  let vehicleId ← administer config body
  requireKnown config.deviceTokens vehicleId "unknown vehicle"
  update fun s => { s with revokedVehicles := insert vehicleId s.revokedVehicles }
  closeSessionsForVehicle w vehicleId "vehicle_revoked"
  update fun s => { s with onlineVehicles := s.onlineVehicles.erase vehicleId }
  audit w ⟨"vehicle_revoked", [("vehicle_id", .string vehicleId)]⟩
  pure (.state "vehicle_id" vehicleId "revoked")

def restoreVehicle (body : Json) : Handler Answer := do
  let vehicleId ← administer config body
  requireKnown config.deviceTokens vehicleId "unknown vehicle"
  update fun s => { s with revokedVehicles := s.revokedVehicles.erase vehicleId }
  audit w ⟨"vehicle_restored", [("vehicle_id", .string vehicleId)]⟩
  pure (.state "vehicle_id" vehicleId "offline")

/-! ## Drivers -/

def driverLogin (body : Json) : Handler Answer := do
  let driverId ← liftResult (requiredString body "driver_id")
  let password ← liftResult (optionalString body "password")
  let timestampMs ← nowMs w
  enforceLoginRateLimit config driverId timestampMs false
  whenever (config.driverPasswords.lookup driverId ≠ some password) do
    recordLoginFailure config w driverId timestampMs false
    throw (.unauthorized "invalid driver credentials")
  update fun s => { s with loginFailures := s.loginFailures.erase ("driver:" ++ driverId) }
  whenever (driverId ∈ (← theService).revokedDrivers) do
    audit w ⟨"driver_login_rejected",
      [("driver_id", .string driverId), ("reason", .string "driver_revoked")]⟩
    throw (.unauthorized "driver is revoked")
  whenever ((← theService).onlineDrivers.lookup driverId ≠ none) do
    audit w ⟨"driver_login_rejected",
      [("driver_id", .string driverId), ("reason", .string "driver_already_online")]⟩
    throw (.conflict "driver is already online" "conflict")
  let generation := (← theService).connectionGeneration + 1
  update fun s => { s with connectionGeneration := generation }
  let token := "driver-token-" ++ (← randomToken w)
  let expiresAtMs := timestampMs + config.tokenTtlMs
  update fun s => { s with
    driverTokens := s.driverTokens.insert token ⟨driverId, expiresAtMs, generation⟩
    onlineDrivers := s.onlineDrivers.insert driverId ⟨"", generation, timestampMs, timestampMs⟩ }
  audit w ⟨"driver_login",
    [("driver_id", .string driverId), ("connection_generation", .integer generation)]⟩
  pure (.login token expiresAtMs generation)

def driverHeartbeat (body : Json) : Handler Answer := do
  let driverId ← liftResult (requiredString body "driver_id")
  validateDriverToken w driverId (← liftResult (optionalString body "token"))
  match (← theService).onlineDrivers.lookup driverId with
  | some presence =>
    pure (.presence driverId "online" presence.generation presence.lastSeenAtMs)
  | none => throw (.logicError "unordered_map::at: key not found")

def driverLogout (body : Json) : Handler Answer := do
  let driverId ← liftResult (requiredString body "driver_id")
  let token ← liftResult (optionalString body "token")
  validateDriverToken w driverId token
  let generation ← generationAt (← theService).onlineDrivers driverId
  closeSessionsForDriver w driverId "driver_logout"
  update fun s => { s with
    driverTokens := s.driverTokens.erase token
    onlineDrivers := s.onlineDrivers.erase driverId }
  let reason ← liftResult (optionalString body "reason")
  audit w ⟨"driver_logout", [("driver_id", .string driverId),
    ("connection_generation", .integer generation), ("reason", .string reason)]⟩
  pure (.state "driver_id" driverId "offline")

/-- What a driver is told about one of the vehicles. -/
def SignalingService.vehicleEntry (service : SignalingService) (sessionIds : List String)
    (vehicleId : String) : Json :=
  let revoked := vehicleId ∈ service.revokedVehicles
  let online := !decide revoked && (service.onlineVehicles.lookup vehicleId).isSome
  let active := (sessionIds.filterMap fun sessionId =>
    (service.sessions.lookup sessionId).map (Prod.mk sessionId)).find? fun entry =>
      entry.2.vehicleId = vehicleId ∧ entry.2.Open
  .object [("vehicle_id", .string vehicleId),
    ("state", .string (if revoked then "revoked"
      else active.elim (if online then "online" else "offline") fun entry => entry.2.state.text)),
    ("online", .boolean online), ("controllable", .boolean (online && active.isNone)),
    ("mobile_approval_required", .boolean (config.RequiresApproval vehicleId)),
    ("controlled_by", .string (active.elim "" fun entry => entry.2.driverId)),
    ("session_id", .string (active.elim "" Prod.fst))]

def authorizedVehicles (driverId token : String) : Handler Answer := do
  validateDriverToken w driverId token
  let service ← theService
  let sessionIds ← loopOver w service.sessions
  let vehicles := ((config.driverVehiclePermissions.lookup driverId).getD []).map
    (service.vehicleEntry config sessionIds)
  audit w ⟨"authorized_vehicles_listed",
    [("driver_id", .string driverId), ("vehicle_count", .integer vehicles.length)]⟩
  pure (.document (.object [("driver_id", .string driverId), ("vehicles", .array vehicles)]))

/-! ## Vehicles -/

/-- The sessions of a connection end when another takes its place. -/
def replaceConnection (vehicleId : String) : Option ConnectionPresence → Handler Unit
  | none => pure ()
  | some presence => do
    closeSessionsForVehicle w vehicleId "vehicle_connection_replaced"
    audit w ⟨"vehicle_connection_replaced", [("vehicle_id", .string vehicleId),
      ("previous_connection_generation", .integer presence.generation)]⟩

def vehicleOnline (body : Json) : Handler Answer := do
  let vehicleId ← liftResult (requiredString body "vehicle_id")
  validateDeviceToken config vehicleId (← liftResult (optionalString body "device_token"))
  let connectionId ← liftResult (requiredString body "connection_id")
  let timestampMs ← nowMs w
  let current := (← theService).onlineVehicles.lookup vehicleId
  match current.filter fun presence => presence.connectionId = connectionId with
  | some presence =>
    update (·.seeVehicle vehicleId timestampMs)
    pure (.presence vehicleId "online" presence.generation timestampMs)
  | none =>
    replaceConnection w vehicleId current
    let generation := (← theService).connectionGeneration + 1
    update fun s => { s with
      connectionGeneration := generation
      onlineVehicles := s.onlineVehicles.insert vehicleId
        ⟨connectionId, generation, timestampMs, timestampMs⟩ }
    audit w ⟨"vehicle_online",
      [("vehicle_id", .string vehicleId), ("connection_generation", .integer generation)]⟩
    pure (.presence vehicleId "online" generation timestampMs)

def vehicleHeartbeat (body : Json) : Handler Answer := do
  let vehicleId ← liftResult (requiredString body "vehicle_id")
  let generation ← liftResult (requiredUint64 body "connection_generation")
  validateVehicleConnection config w vehicleId
    (← liftResult (optionalString body "device_token")) generation
  match (← theService).onlineVehicles.lookup vehicleId with
  | some presence => pure (.presence vehicleId "online" generation presence.lastSeenAtMs)
  | none => throw (.logicError "unordered_map::at: key not found")

def vehicleOffline (body : Json) : Handler Answer := do
  let vehicleId ← liftResult (requiredString body "vehicle_id")
  let generation ← liftResult (requiredUint64 body "connection_generation")
  validateVehicleConnection config w vehicleId
    (← liftResult (optionalString body "device_token")) generation
  update fun s => { s with onlineVehicles := s.onlineVehicles.erase vehicleId }
  closeSessionsForVehicle w vehicleId "vehicle_offline"
  let reason ← liftResult (optionalString body "reason")
  audit w ⟨"vehicle_offline", [("vehicle_id", .string vehicleId),
    ("connection_generation", .integer generation), ("reason", .string reason)]⟩
  pure (.state "vehicle_id" vehicleId "offline")

/-- `GET /vehicles/{id}/session`. -/
def vehicleSession (vehicleId : String) (credentials : Json) : Handler Answer := do
  let generation ← liftResult (requiredUint64 credentials "connection_generation")
  validateVehicleConnection config w vehicleId
    (← liftResult (optionalString credentials "device_token")) generation
  let service ← theService
  let found := (← loopOver w service.sessions).find? fun sessionId =>
    ∃ session ∈ service.sessions.lookup sessionId,
      session.vehicleId = vehicleId ∧ session.state = .active
  pure (.session (found.getD "") (found.bind service.sessions.lookup))

/-! ## Approvals -/

def approvalCancel (body : Json) : Handler Answer := do
  let driverId ← liftResult (requiredString body "driver_id")
  let vehicleId ← liftResult (requiredString body "vehicle_id")
  validateDriverToken w driverId (← liftResult (optionalString body "token"))
  let requestId ← liftResult (requiredString body "approval_request_id")
  let generation ← generationAt (← theService).onlineDrivers driverId
  match (← theService).mobileApprovals.lookup vehicleId with
  | none => throw (.conflict "连接申请已失效" "mobile_approval_stale")
  | some approval =>
    refuseIf (approval.requestId ≠ requestId ∨ approval.driverId ≠ driverId ∨
        approval.driverGeneration ≠ generation)
      (.conflict "连接申请已失效" "mobile_approval_stale")
    whenever (approval.sessionId ≠ "")
      (closeSession w approval.sessionId "mobile_approval_cancelled")
    if approval.state ∈ [.pending, .approved, .consumed] then
      let cancelled := { approval with state := .cancelled }
      update fun s => { s with mobileApprovals := s.mobileApprovals.insert vehicleId cancelled }
      audit w ⟨"mobile_approval_cancelled", ← MobileApproval.details w vehicleId cancelled⟩
      pure (.approval vehicleId cancelled)
    else pure (.approval vehicleId approval)

/-- Without a configured password nobody gets in. -/
def passwordRefused (body : Json) : Except Refusal Bool :=
  if config.mobileAppPassword = "" then .ok true
  else do
    let password ← optionalString body "password"
    .ok (config.mobileAppPassword ≠ password)

def mobileLogin (source : String) (body : Json) : Handler Answer := do
  let timestampMs ← nowMs w
  let bucket ← approverLoginBucket config source timestampMs
  enforceLoginRateLimit config bucket timestampMs true
  whenever ((← liftResult (passwordRefused config body)) = true) do
    recordLoginFailure config w bucket timestampMs true
    throw (.unauthorized "App 密码错误")
  update fun s => { s with loginFailures := s.loginFailures.erase ("approver:" ++ bucket) }
  let label ← randomToken w
  let secret ← randomToken w
  let expiresAtMs := (← nowMs w) + config.approverTokenTtlMs
  update fun s => { s with
    approverTokens := s.approverTokens.insert ("approver-token-" ++ secret)
      ⟨"app-" ++ label, expiresAtMs, 0⟩ }
  audit w ⟨"approver_login", [("approver_id", .string ("app-" ++ label))]⟩
  pure (.approverLogin ("approver-token-" ++ secret) expiresAtMs)

/-- The approver behind the token of a request. -/
def requireApprover (token : String) : Handler String := do
  match (← theService).approverTokens.lookup token with
  | none => throw (.unauthorized "审批登录已失效，请重新登录")
  | some found => pure found.driverId

def mobileLogout (token : String) : Handler Answer := do
  let approverId ← requireApprover token
  update fun s => { s with approverTokens := s.approverTokens.erase token }
  audit w ⟨"approver_logout", [("approver_id", .string approverId)]⟩
  pure (.document (.object [("state", .string "logged_out")]))

def mobileRequests (token : String) : Handler Answer := do
  let _ ← requireApprover token
  let service ← theService
  pure (.approvals (config.mobileApprovalVehicles.filterMap fun vehicleId =>
    (service.mobileApprovals.lookup vehicleId).map fun approval => (vehicleId, approval)))

/-- The vehicle whose approval has the id. -/
def findApproval (requestId : String) : Handler (Option String) := do
  let service ← theService
  pure ((← loopOver w service.mobileApprovals).find? fun vehicleId =>
    (∃ approval ∈ service.mobileApprovals.lookup vehicleId, approval.requestId = requestId) ∧
      config.RequiresApproval vehicleId)

/-- What a decision does with the record that it is about. -/
def decideApproval (vehicleId approverId : String) (next : ApprovalState) : Handler Answer := do
  match (← theService).mobileApprovals.lookup vehicleId with
  | none => throw (.notFound "审批申请不存在或无权访问")
  | some approval =>
    if approval.state = next ∧ approval.decidedBy = approverId then
      pure (.approval vehicleId approval)
    else do
      refuseIf (approval.state ≠ .pending)
        (.conflict "申请已处理或失效，请刷新" "mobile_approval_not_pending")
      let decided := { approval with state := next, decidedBy := approverId }
      let written ← tryAudit w ⟨"mobile_approval_decided",
        ← MobileApproval.details w vehicleId decided⟩
      refuseIf (written = false)
        (.serviceUnavailable "audit log unavailable; approval decision was not saved")
      update fun s => { s with mobileApprovals := s.mobileApprovals.insert vehicleId decided }
      pure (.approval vehicleId decided)

def mobileDecision (token requestId : String) (body : Json) : Handler Answer := do
  let approverId ← requireApprover token
  let decision ← liftResult (requiredString body "decision")
  refuseIf (decision ≠ "approve" ∧ decision ≠ "reject")
    (.invalidArgument "decision must be approve or reject")
  match ← findApproval config w requestId with
  | none => throw (.notFound "审批申请不存在或无权访问")
  | some vehicleId =>
    decideApproval w vehicleId approverId (if decision = "approve" then .approved else .rejected)

/-! ## Sessions -/

/-- `session-` and the counter with six digits or more. -/
def sessionName (counter : ℕ) : String :=
  "session-" ++ String.ofList (List.replicate (6 - (toString counter).length) '0') ++
    toString counter

def SignalingService.Controlled (service : SignalingService) (vehicleId : String) : Prop :=
  ∃ sessionId ∈ service.sessions.keys, ∃ session ∈ service.sessions.lookup sessionId,
    session.vehicleId = vehicleId ∧ session.Open

instance (service : SignalingService) (vehicleId : String) :
    Decidable (service.Controlled vehicleId) :=
  inferInstanceAs (Decidable (∃ sessionId ∈ service.sessions.keys,
    ∃ session ∈ service.sessions.lookup sessionId, _))

/-- The approval that a session is created from is used up before the session is there. -/
def consumeApproval (driverId vehicleId requestId : String) : Handler Unit := do
  match (← theService).mobileApprovals.lookup vehicleId with
  | none => throw (.logicError "unordered_map::at: key not found")
  | some approval =>
    let written ← tryAudit w ⟨"mobile_approval_consume_preflight",
      ← MobileApproval.details w vehicleId approval⟩
    refuseIf (written = false)
      (.serviceUnavailable "audit log unavailable; approval cannot be consumed")
    -- Writing the record may have taken until after the deadline.
    requireMobileApproval config w driverId vehicleId requestId
    update fun s => { s with
      mobileApprovals := s.mobileApprovals.adjust vehicleId ({ · with state := .consumed }) }

/-- The checks of a connection request. -/
def authorizeSession (driverId vehicleId : String) (body : Json) : Handler Unit := do
  validateDriverToken w driverId (← liftResult (optionalString body "token"))
  whenever (¬config.Permits driverId vehicleId) do
    audit w ⟨"session_rejected", [("vehicle_id", .string vehicleId),
      ("driver_id", .string driverId), ("reason", .string "vehicle_not_permitted")]⟩
    throw (.unauthorized "driver is not permitted to control this vehicle")
  refuseIf ((← theService).onlineVehicles.lookup vehicleId = none)
    (.conflict "vehicle is not online" "conflict")
  whenever ((← theService).Controlled vehicleId) do
    audit w ⟨"session_rejected", [("vehicle_id", .string vehicleId),
      ("driver_id", .string driverId),
      ("reason", .string "control_authority_already_granted")]⟩
    throw (.conflict "control authority already granted" "conflict")
  let requestId ← liftResult (optionalString body "approval_request_id")
  requireMobileApproval config w driverId vehicleId requestId
  let written ← tryAudit w ⟨"control_authority_grant_preflight",
    [("vehicle_id", .string vehicleId), ("driver_id", .string driverId)]⟩
  refuseIf (written = false)
    (.serviceUnavailable "audit log unavailable; new control authority is disabled")
  whenever (config.RequiresApproval vehicleId)
    (consumeApproval config w driverId vehicleId requestId)

/-- The session as it is stored first. -/
def openSession (driverId vehicleId : String) : Handler (String × Session) := do
  update fun s => { s with sessionCounter := s.sessionCounter + 1 }
  let sessionId := sessionName (← theService).sessionCounter
  let startedAtUtcMs ← nowMs w
  let token ← randomToken w
  let timestampMs ← nowMs w
  let session : Session := {
    vehicleId := vehicleId
    driverId := driverId
    startedAtUtcMs := startedAtUtcMs
    state := .online
    controlToken := "control-token-" ++ token
    controlTokenExpiresAtMs := timestampMs + config.controlTokenTtlMs }
  update fun s => { s with sessions := s.sessions.insert sessionId session }
  whenever (config.RequiresApproval vehicleId) do
    update fun s => { s with
      mobileApprovals := s.mobileApprovals.adjust vehicleId ({ · with sessionId := sessionId }) }
  pure (sessionId, session)

/-- The records and transitions of a session that has just been stored. -/
def grantAuthority (sessionId : String) (session : Session) : Handler Unit := do
  audit w ⟨"session_created", session.details sessionId⟩
  transitionSession w sessionId .reserved "control_requested"
  transitionSession w sessionId .connecting "participants_authenticated"
  transitionSession w sessionId .active "control_authority_granted"
  let service ← theService
  let requestId := if config.RequiresApproval session.vehicleId then
      (service.mobileApprovals.lookup session.vehicleId).elim "" (·.requestId)
    else ""
  let written ← tryAudit w ⟨"control_authority_granted", session.details sessionId ++
    [("approval_request_id", .string requestId)]⟩
  whenever (written = false) do
    closeSession w sessionId "audit_log_unavailable"
    throw (.serviceUnavailable "audit log unavailable; control authority was not granted")

/-- The handler of whatever is thrown meanwhile. -/
def abandonSession (sessionId : String) : Handler Unit := do
  update (·.adjustSession sessionId ({ · with state := .closed }))
  throw (.serviceUnavailable "audit log unavailable; control authority was not granted")

def createSession (body : Json) : Handler Answer := do
  let driverId ← liftResult (requiredString body "driver_id")
  let vehicleId ← liftResult (requiredString body "vehicle_id")
  authorizeSession config w driverId vehicleId body
  let (sessionId, session) ← openSession config w driverId vehicleId
  tryCatch (grantAuthority config w sessionId session) fun _ => abandonSession sessionId
  pure (.session sessionId ((← theService).sessions.lookup sessionId))

def renewSession (sessionId : String) (body : Json) : Handler Answer := do
  let actor ← liftResult (requiredString body "actor")
  let session ← requireParticipant sessionId actor
  refuseIf (actor ≠ session.driverId)
    (.unauthorized "only the current driver can renew control authority")
  validateActorCredential config w session actor body
  let renewedAtMs ← nowMs w
  let expiresAtMs := min (2 ^ 63 - 1) (renewedAtMs + config.controlTokenTtlMs)
  update (·.adjustSession sessionId ({ · with controlTokenExpiresAtMs := expiresAtMs }))
  audit w ⟨"control_authority_renewed", session.details sessionId ++
    [("previous_expires_at_utc_ms", .integer session.controlTokenExpiresAtMs),
      ("expires_at_utc_ms", .integer expiresAtMs)]⟩
  pure (.session sessionId ((← theService).sessions.lookup sessionId))

/-- `end` and `control_authority/revoke`. -/
def closeAuthority (sessionId : String) (body : Json) (byDefault event : String) :
    Handler Answer := do
  let actor ← liftResult (requiredString body "actor")
  let session ← requireParticipant sessionId actor
  validateActorCredential config w session actor body
  let reason ← liftResult (optionalString body "reason")
  closeSession w sessionId (if reason = "" then byDefault else reason)
  audit w ⟨event, session.details sessionId ++ [("reason", .string reason)]⟩
  pure (.session sessionId ((← theService).sessions.lookup sessionId))

def endSession (sessionId : String) (body : Json) : Handler Answer :=
  closeAuthority config w sessionId body "session_end" "session_ended"

def revokeAuthority (sessionId : String) (body : Json) : Handler Answer :=
  closeAuthority config w sessionId body "control_authority_revoked" "control_authority_revoked"

/-- The reports of a participant: its own checks of the body give the records to write. -/
def report (sessionId : String) (body : Json)
    (records : Session → String → Except Refusal (List AuditRecord)) : Handler Answer := do
  let actor ← liftResult (requiredString body "actor")
  let session ← requireParticipant sessionId actor
  validateActorCredential config w session actor body
  let asked ← liftResult (records session actor)
  asked.forM (audit w)
  pure (.document (.object [("session_id", .string sessionId)]))

/-- `GET /sessions/{id}`. -/
def readSession (sessionId actor : String) (credentials : Json) : Handler Answer := do
  let session ← requireParticipant sessionId actor
  validateActorCredential config w session actor credentials
  pure (.session sessionId session)

def iceServers (sessionId actor : String) (credentials : Json) : Handler Answer := do
  let session ← requireParticipant sessionId actor
  validateActorCredential config w session actor credentials
  whenever (config.turnUrls ≠ []) do
    let _ ← nowMs w
  audit w ⟨"ice_servers_issued", session.details sessionId ++ [("actor", .string actor)]⟩
  pure (.document (.object [("session_id", .string sessionId)]))

/-- `GET /signaling/{id}/messages`. -/
def pollMessages (sessionId recipient types : String) (credentials : Json) : Handler Answer := do
  refuseIf (recipient = "") (.invalidArgument "recipient is required")
  let session ← requireParticipant sessionId recipient
  validateActorCredential config w session recipient credentials
  pure (.messages (← takeSignalingMessages config w sessionId recipient types true))

/-- The session logs of a driver; only a new export ends what has run out. -/
def sessionLogs (driverId token : String) (start : Bool) : Handler Answer := do
  validateDriverToken w driverId token
  whenever (start = true) do
    cleanupExpiredConnections config w (← nowMs w)
  pure (.document (.object [("driver_id", .string driverId)]))

/-! ## Routes -/

inductive Request where
  | revokeDriver (body : Json)
  | restoreDriver (body : Json)
  | revokeVehicle (body : Json)
  | restoreVehicle (body : Json)
  | driverLogin (body : Json)
  | driverHeartbeat (body : Json)
  | driverLogout (body : Json)
  | vehicleOnline (body : Json)
  | vehicleHeartbeat (body : Json)
  | vehicleOffline (body : Json)
  | approvalCancel (body : Json)
  | createSession (body : Json)
  | renewSession (sessionId : String) (body : Json)
  | endSession (sessionId : String) (body : Json)
  | revokeAuthority (sessionId : String) (body : Json)
  | report (sessionId : String) (body : Json)
      (records : Session → String → Except Refusal (List AuditRecord))
  | postMessage (sessionId : String) (body : Json)
  | authorizedVehicles (driverId token : String)
  | pollMessages (sessionId recipient types : String) (credentials : Json)
  | vehicleSession (vehicleId : String) (credentials : Json)
  | readSession (sessionId actor : String) (credentials : Json)
  | iceServers (sessionId actor : String) (credentials : Json)
  | mobileLogin (source : String) (body : Json)
  | mobileLogout (token : String)
  | mobileRequests (token : String)
  | mobileDecision (token requestId : String) (body : Json)
  | sessionLogs (driverId token : String) (start : Bool)

def Request.handle : Request → Handler Answer
  | revokeDriver body => Signaling.revokeDriver config w body
  | restoreDriver body => Signaling.restoreDriver config w body
  | revokeVehicle body => Signaling.revokeVehicle config w body
  | restoreVehicle body => Signaling.restoreVehicle config w body
  | driverLogin body => Signaling.driverLogin config w body
  | driverHeartbeat body => Signaling.driverHeartbeat w body
  | driverLogout body => Signaling.driverLogout w body
  | vehicleOnline body => Signaling.vehicleOnline config w body
  | vehicleHeartbeat body => Signaling.vehicleHeartbeat config w body
  | vehicleOffline body => Signaling.vehicleOffline config w body
  | approvalCancel body => Signaling.approvalCancel w body
  | createSession body => Signaling.createSession config w body
  | renewSession sessionId body => Signaling.renewSession config w sessionId body
  | endSession sessionId body => Signaling.endSession config w sessionId body
  | revokeAuthority sessionId body => Signaling.revokeAuthority config w sessionId body
  | report sessionId body records => Signaling.report config w sessionId body records
  | postMessage sessionId body => do
    pure (.acknowledgement (← enqueueSignalingMessage config w sessionId body none))
  | authorizedVehicles driverId token => Signaling.authorizedVehicles config w driverId token
  | pollMessages sessionId recipient types credentials =>
    Signaling.pollMessages config w sessionId recipient types credentials
  | vehicleSession vehicleId credentials =>
    Signaling.vehicleSession config w vehicleId credentials
  | readSession sessionId actor credentials =>
    Signaling.readSession config w sessionId actor credentials
  | iceServers sessionId actor credentials =>
    Signaling.iceServers config w sessionId actor credentials
  | mobileLogin source body => Signaling.mobileLogin config w source body
  | mobileLogout token => Signaling.mobileLogout w token
  | mobileRequests token => Signaling.mobileRequests config token
  | mobileDecision token requestId body => Signaling.mobileDecision config w token requestId body
  | sessionLogs driverId token start => Signaling.sessionLogs config w driverId token start

/-- What has run out is ended before a request is looked at; the routes of the phones end
approvals once more, and the session logs do without. -/
def Request.prepare : Request → Handler Unit
  | sessionLogs .. => pure ()
  | mobileLogin .. | mobileLogout .. | mobileRequests .. | mobileDecision .. => do
    cleanupExpiredConnections config w (← nowMs w)
    cleanupMobileApprovals w
  | _ => do cleanupExpiredConnections config w (← nowMs w)

def Request.serve (request : Request) : Handler Answer := do
  request.prepare config w
  request.handle config w

end

/-! ## WebSocket connections -/

structure Connection where
  sessionId : String
  participant : String
  credentials : Json
  sendOnly : Bool
  controlReceiveOnly : Bool
  lastDeliveryCursorSent : ℕ
  lastDeliverySentAt : ℤ
  deriving DecidableEq

section
variable (config : SignalingServerConfig) (w : Circumstances)

namespace Connection

def authenticate (connection : Connection) : Handler Session := do
  cleanupExpiredConnections config w (← nowMs w)
  let session ← requireParticipant connection.sessionId connection.participant
  validateActorCredential config w session connection.participant connection.credentials
  pure session

/-- The checks before the upgrade. -/
def admission (connection : Connection) : Handler Answer := do
  refuseIf (connection.participant = "") (.invalidArgument "participant is required")
  refuseIf (connection.controlReceiveOnly ∧ connection.sendOnly)
    (.invalidArgument "control-command receive WebSocket cannot be send-only")
  let session ← connection.authenticate config w
  refuseIf (connection.sendOnly ∧ connection.participant ≠ session.driverId)
    (.unauthorized "send-only signaling is restricted to the session driver")
  refuseIf (connection.controlReceiveOnly ∧ connection.participant ≠ session.vehicleId)
    (.unauthorized "control-command receive signaling is restricted to the session vehicle")
  pure .idle

/-- The first half of a turn: what there is to send, or nothing. -/
def pending (connection : Connection) : Handler (Answer × Connection) := do
  let _ ← connection.authenticate config w
  if connection.sendOnly then
    pure (.idle, connection)
  else
    let messages ← takeSignalingMessages config w connection.sessionId connection.participant
      (if connection.controlReceiveOnly then "control_command" else "") false
    match messages.getLast? with
    | none => pure (.idle, connection)
    | some last =>
      let timestamp ← steadyNow w
      if connection.lastDeliveryCursorSent < last.deliveryCursor ∨
          500 * 10 ^ 6 ≤ timestamp - connection.lastDeliverySentAt then
        pure (.delivery last.deliveryCursor messages,
          { connection with
            lastDeliveryCursorSent :=
              max connection.lastDeliveryCursorSent last.deliveryCursor
            lastDeliverySentAt := timestamp })
      else pure (.idle, connection)

/-- `signaling_delivery_ack`. -/
def receiveAck (connection : Connection) (message : Json) : Handler Answer := do
  let deliveryCursor ← liftResult (requiredUint64 message "delivery_cursor")
  let reported ← liftResult
    (protocolDocument (message.value "trace_session_id" Json.getString ""))
  refuseIf (reported ≠ "" ∧ reported ≠ connection.sessionId) (.invalidArgument
    "delivery acknowledgement trace session does not match WebSocket session")
  let _ ← liftResult (protocolDocument (message.value "seq" Json.getUint64 0))
  let _ ← liftResult (protocolDocument (message.value "intent_seq" Json.getUint64 0))
  refuseIf (connection.lastDeliveryCursorSent < deliveryCursor)
    (.invalidArgument "delivery acknowledgement exceeds the last delivered cursor")
  let _ ← connection.authenticate config w
  let count ← acknowledgeSignalingMessages connection.sessionId connection.participant
    deliveryCursor connection.controlReceiveOnly
  pure (.acknowledged deliveryCursor count)

def receivePost (connection : Connection) (message : Json) : Handler Answer := do
  refuseIf (connection.controlReceiveOnly = true) (.invalidArgument
    "control-command receive WebSocket accepts delivery acknowledgements only")
  let _ ← connection.authenticate config w
  let type ← liftResult (protocolDocument (message.value "type" Json.getString ""))
  refuseIf (connection.sendOnly ∧ type ≠ "control_command") (.invalidArgument
    "send-only control WebSocket accepts control_command messages only")
  pure (.acknowledgement (← enqueueSignalingMessage config w connection.sessionId message
    (some connection.participant)))

/-- The second half of a turn, when a message has come. -/
def receive (connection : Connection) (message : Json) : Handler Answer :=
  if connection.sendOnly then connection.receivePost config w message
  else do
    let event ← liftResult (protocolDocument (message.value "event" Json.getString ""))
    if event = "signaling_delivery_ack" then connection.receiveAck config w message
    else connection.receivePost config w message

end Connection

end

/-! ## The machine -/

/-- The service and the connections it holds. -/
structure Station where
  service : SignalingService
  connections : Table Connection

def Station.init : Station := ⟨.init, ∅⟩

inductive Action where
  | request (request : Request)
  | reap
  | connect (id : String) (sessionId participant : String) (credentials : Json)
      (sendOnly controlReceiveOnly : Bool)
  | turn (id : String) (sendFails : Bool)
  | receive (id : String) (message : Json)
  | disconnect (id : String)

abbrev Occasion := Circumstances × Action

/-- What a call gave back, what it asked to be written, and what it accepted. -/
structure Outcome where
  answer : Except Refusal Answer
  asked : List (AuditRecord × Bool)
  queued : List Accepted

def Outcome.of {α : Type} (f : α → Answer) (result : Except Refusal α × Call) : Outcome where
  answer := result.1.map f
  asked := result.2.asked
  queued := result.2.queued

def Outcome.idle : Outcome := ⟨.ok .idle, [], []⟩

namespace Station

variable (config : SignalingServerConfig)

def step (station : Station) (occasion : Occasion) : Outcome × Station :=
  let (w, action) := occasion
  let start := Call.start station.service
  match action with
  | .request request =>
    let result := (request.serve config w).exec start
    (.of id result, { station with service := result.2.service })
  | .reap =>
    let result := (do cleanupExpiredConnections config w (← nowMs w) : Handler Unit).exec start
    (.of (fun _ => .idle) result, { station with service := result.2.service })
  | .connect id sessionId participant credentials sendOnly controlReceiveOnly =>
    let connection : Connection :=
      ⟨sessionId, participant, credentials, sendOnly, controlReceiveOnly, 0, 0⟩
    let result := (connection.admission config w).exec start
    (.of (fun answer => answer) result,
      { service := result.2.service
        connections :=
          if result.1.isOk ∧ (station.connections.lookup id).isNone then
            station.connections.insert id connection
          else station.connections })
  | .turn id sendFails =>
    match station.connections.lookup id with
    | none => (.idle, station)
    | some connection =>
      let result := (connection.pending config w).exec start
      match result.1 with
      | .error _ =>
        (.of Prod.fst result, ⟨result.2.service, station.connections.erase id⟩)
      | .ok (answer, sent) =>
        if sendFails ∧ answer ≠ .idle then
          ({ Outcome.of Prod.fst result with answer := .ok .idle },
            ⟨result.2.service, station.connections.erase id⟩)
        else
          (.of Prod.fst result, ⟨result.2.service, station.connections.insert id sent⟩)
  | .receive id message =>
    match station.connections.lookup id with
    | none => (.idle, station)
    | some connection =>
      let result := (connection.receive config w message).exec start
      (.of (fun answer => answer) result, { station with service := result.2.service })
  | .disconnect id => (.idle, { station with connections := station.connections.erase id })

def machine : Machine Station Occasion Outcome := ⟨.init, step config⟩

end Station

end MineTeleop.Signaling
