import MineTeleop.Signaling.Service

/-!
# Sessions, presences and approvals

Who may act for whom, the transitions of a session, and what is taken away when a token, a
presence or an approval runs out.
-/

namespace MineTeleop.Signaling

open Documents Programs Tables
open Service (ProtocolMetadata)

namespace SignalingService

def adjustSession (service : SignalingService) (sessionId : String) (f : Session → Session) :
    SignalingService :=
  { service with sessions := service.sessions.adjust sessionId f }

def seeDriver (service : SignalingService) (driverId : String) (timestampMs : ℤ) :
    SignalingService :=
  { service with
    onlineDrivers := service.onlineDrivers.adjust driverId fun presence =>
      { presence with lastSeenAtMs := timestampMs } }

def seeVehicle (service : SignalingService) (vehicleId : String) (timestampMs : ℤ) :
    SignalingService :=
  { service with
    onlineVehicles := service.onlineVehicles.adjust vehicleId fun presence =>
      { presence with lastSeenAtMs := timestampMs } }

/-- What the participants of a session have in the mailboxes. -/
def forgetMailboxes (service : SignalingService) (sessionId : String) (session : Session) :
    SignalingService :=
  let driver := messageKey sessionId session.driverId
  let vehicle := messageKey sessionId session.vehicleId
  { service with
    messages := (service.messages.erase driver).erase vehicle
    latestControlMessages := (service.latestControlMessages.erase driver).erase vehicle
    lastAcceptedMessages :=
      ((service.lastAcceptedMessages.erase driver).erase vehicle).erase
        (driver ++ ":native_control")
    nextDeliveryCursors := (service.nextDeliveryCursors.erase driver).erase vehicle }

/-- The presence is the one of the connection generation. -/
def DriverIs (service : SignalingService) (driverId : String) (generation : ℕ) : Prop :=
  ∃ presence ∈ service.onlineDrivers.lookup driverId, presence.generation = generation

def VehicleIs (service : SignalingService) (vehicleId : String) (generation : ℕ) : Prop :=
  ∃ presence ∈ service.onlineVehicles.lookup vehicleId, presence.generation = generation

instance (service : SignalingService) (driverId : String) (generation : ℕ) :
    Decidable (service.DriverIs driverId generation) :=
  inferInstanceAs (Decidable (∃ presence ∈ service.onlineDrivers.lookup driverId, _))

instance (service : SignalingService) (vehicleId : String) (generation : ℕ) :
    Decidable (service.VehicleIs vehicleId generation) :=
  inferInstanceAs (Decidable (∃ presence ∈ service.onlineVehicles.lookup vehicleId, _))

/-- Both parties of the approval are connected as they were when it was asked for. -/
def Stands (service : SignalingService) (vehicleId : String) (approval : MobileApproval) : Prop :=
  service.DriverIs approval.driverId approval.driverGeneration ∧
    service.VehicleIs vehicleId approval.vehicleGeneration ∧
    approval.driverId ∉ service.revokedDrivers ∧ vehicleId ∉ service.revokedVehicles

instance (service : SignalingService) (vehicleId : String) (approval : MobileApproval) :
    Decidable (service.Stands vehicleId approval) :=
  inferInstanceAs (Decidable (_ ∧ _))

end SignalingService

section
variable (config : SignalingServerConfig) (w : Circumstances)

/-! ## Credentials -/

def requireActiveSession (sessionId : String) : Handler Session := do
  match (← theService).sessions.lookup sessionId with
  | none => throw (.notFound "unknown session")
  | some session =>
    refuseIf (session.state ≠ .active)
      (.conflict "session is not active" "session_not_active")
    pure session

def requireParticipant (sessionId participant : String) : Handler Session := do
  let session ← requireActiveSession sessionId
  refuseIf (¬session.Participant participant)
    (.unauthorized "actor is not current session participant")
  pure session

def validateDriverToken (driverId token : String) : Handler Unit := do
  refuseIf (driverId ∈ (← theService).revokedDrivers) (.unauthorized "driver is revoked")
  match (← theService).driverTokens.lookup token with
  | none => throw (.unauthorized "invalid driver token")
  | some found =>
    refuseIf (token = "" ∨ found.driverId ≠ driverId) (.unauthorized "invalid driver token")
    refuseIf (found.expiresAtMs ≤ (← nowMs w)) (.unauthorized "driver token expired")
    refuseIf (¬(← theService).DriverIs driverId found.connectionGeneration)
      (.unauthorized "driver connection is no longer current")
    let timestampMs ← nowMs w
    update (·.seeDriver driverId timestampMs)

def validateDeviceToken (vehicleId token : String) : Handler Unit := do
  refuseIf (vehicleId ∈ (← theService).revokedVehicles) (.unauthorized "vehicle is revoked")
  refuseIf (token = "" ∨ config.deviceTokens.lookup vehicleId ≠ some token)
    (.unauthorized "invalid device token")

def validateVehicleConnection (vehicleId token : String) (connectionGeneration : ℕ) :
    Handler Unit := do
  validateDeviceToken config vehicleId token
  match (← theService).onlineVehicles.lookup vehicleId with
  | none => throw (.conflict "vehicle is offline" "vehicle_offline")
  | some presence =>
    refuseIf (connectionGeneration = 0 ∨ presence.generation ≠ connectionGeneration)
      (.conflict "vehicle connection generation is stale" "vehicle_connection_generation_stale")
    let timestampMs ← nowMs w
    update (·.seeVehicle vehicleId timestampMs)

/-! ## Transitions -/

def Session.details (sessionId : String) (session : Session) : List (String × Json) :=
  [("session_id", .string sessionId), ("vehicle_id", .string session.vehicleId),
    ("driver_id", .string session.driverId)]

def transitionRecord (sessionId : String) (session : Session) (next : SessionState)
    (reason : String) : AuditRecord :=
  ⟨"session_state_changed", session.details sessionId ++
    [("from", .string session.state.text), ("to", .string next.text),
      ("reason", .string reason)]⟩

def transitionSession (sessionId : String) (next : SessionState) (reason : String) :
    Handler Unit := do
  match (← theService).sessions.lookup sessionId with
  | none => pure ()
  | some session =>
    whenever (session.state ≠ next) do
      refuseIf (¬session.state.Allowed next) (.logicError
        ("invalid session transition " ++ session.state.text ++ " -> " ++ next.text))
      update (·.adjustSession sessionId ({ · with state := next }))
      audit w (transitionRecord sessionId session next reason)

def closeSession (sessionId reason : String) : Handler Unit := do
  match (← theService).sessions.lookup sessionId with
  | none => pure ()
  | some session =>
    whenever (session.state ≠ .closed) do
      update (·.adjustSession sessionId
        ({ · with controlToken := "", controlTokenExpiresAtMs := 0 }))
      update (·.forgetMailboxes sessionId session)
      whenever (session.state ≠ .stopping) (transitionSession w sessionId .stopping reason)
      transitionSession w sessionId .closed reason

/-- The loop of `close_sessions_for_vehicle` and `close_sessions_for_driver`. -/
def closeSessions (chosen : Session → Bool) (reason : String) : Handler Unit := do
  (← loopOver w (← theService).sessions).forM fun sessionId => do
    match (← theService).sessions.lookup sessionId with
    | none => pure ()
    | some session =>
      whenever (chosen session ∧ session.state ≠ .closed) (closeSession w sessionId reason)

def closeSessionsForVehicle (vehicleId reason : String) : Handler Unit :=
  closeSessions w (fun session => session.vehicleId = vehicleId) reason

def closeSessionsForDriver (driverId reason : String) : Handler Unit :=
  closeSessions w (fun session => session.driverId = driverId) reason

/-! ## Running out -/

/-- A turn of the first loop of `cleanup_expired_connections`. -/
def expireDriverToken (timestampMs : ℤ) (token : String) : Handler Unit := do
  match (← theService).driverTokens.lookup token with
  | none => pure ()
  | some found =>
    whenever (found.expiresAtMs ≤ timestampMs) do
      update fun s => { s with driverTokens := s.driverTokens.erase token }
      whenever ((← theService).DriverIs found.driverId found.connectionGeneration) do
        update fun s => { s with onlineDrivers := s.onlineDrivers.erase found.driverId }
        closeSessionsForDriver w found.driverId "driver_token_expired"
        audit w ⟨"driver_offline", [("driver_id", .string found.driverId),
          ("connection_generation", .integer found.connectionGeneration),
          ("reason", .string "token_expired")]⟩

def expireSession (timestampMs : ℤ) (sessionId : String) : Handler Unit := do
  match (← theService).sessions.lookup sessionId with
  | none => pure ()
  | some session =>
    whenever (session.state ≠ .closed ∧ 0 < session.controlTokenExpiresAtMs ∧
        session.controlTokenExpiresAtMs ≤ timestampMs) do
      closeSession w sessionId "control_token_expired"
      audit w ⟨"control_authority_expired", session.details sessionId⟩

def expireVehicle (timestampMs : ℤ) (vehicleId : String) : Handler Unit := do
  match (← theService).onlineVehicles.lookup vehicleId with
  | none => pure ()
  | some presence =>
    whenever (config.vehicleHeartbeatTimeoutMs ≤ timestampMs - presence.lastSeenAtMs) do
      update fun s => { s with onlineVehicles := s.onlineVehicles.erase vehicleId }
      closeSessionsForVehicle w vehicleId "vehicle_heartbeat_timeout"
      audit w ⟨"vehicle_offline", [("vehicle_id", .string vehicleId),
        ("connection_generation", .integer presence.generation),
        ("reason", .string "heartbeat_timeout")]⟩

def expireDriver (timestampMs : ℤ) (driverId : String) : Handler Unit := do
  match (← theService).onlineDrivers.lookup driverId with
  | none => pure ()
  | some presence =>
    whenever (config.driverHeartbeatTimeoutMs ≤ timestampMs - presence.lastSeenAtMs) do
      update fun s => { s with
        onlineDrivers := s.onlineDrivers.erase driverId
        driverTokens := s.driverTokens.eraseIf fun _ token =>
          token.driverId = driverId ∧ token.connectionGeneration = presence.generation }
      closeSessionsForDriver w driverId "driver_heartbeat_timeout"
      audit w ⟨"driver_offline", [("driver_id", .string driverId),
        ("connection_generation", .integer presence.generation),
        ("reason", .string "heartbeat_timeout")]⟩

/-! ## Approvals -/

def MobileApproval.details (vehicleId : String) (approval : MobileApproval) :
    Handler (List (String × Json)) := do
  let ns ← steadyNow w
  pure [("request_id", .string approval.requestId), ("vehicle_id", .string vehicleId),
    ("driver_id", .string approval.driverId), ("state", .string approval.state.text),
    ("decided_by", .string approval.decidedBy),
    ("expires_at_utc_ms", .integer approval.expiresAtMs),
    ("remaining_ms", .integer (max 0 ((approval.deadline - ns) / 10 ^ 6)))]

/-- What has become of a live approval, if it is over. -/
def approvalEnd (vehicleId : String) (approval : MobileApproval) :
    Handler (Option ApprovalState) := do
  if ¬(← theService).Stands vehicleId approval then
    pure (some .cancelled)
  else if approval.deadline ≤ (← steadyNow w) then
    pure (some .expired)
  else
    pure none

def endApproval (vehicleId : String) (approval : MobileApproval) (next : ApprovalState) :
    Handler Unit := do
  update fun s => { s with
    mobileApprovals := s.mobileApprovals.insert vehicleId { approval with state := next } }
  -- Whether the record is written does not matter here.
  let _ ← tryAudit w ⟨"mobile_approval_" ++ next.text,
    ← MobileApproval.details w vehicleId { approval with state := next }⟩

/-- A turn of the loop of `cleanup_mobile_approvals`. -/
def cleanupMobileApproval (vehicleId : String) : Handler Unit := do
  match (← theService).mobileApprovals.lookup vehicleId with
  | none => pure ()
  | some approval =>
    whenever approval.state.Live do
      match ← approvalEnd w vehicleId approval with
      | none => pure ()
      | some next => endApproval w vehicleId approval next

def cleanupMobileApprovals : Handler Unit := do
  (← loopOver w (← theService).mobileApprovals).forM (cleanupMobileApproval w)
  let timestampMs ← nowMs w
  update fun s => { s with
    approverTokens := s.approverTokens.eraseIf fun _ token => token.expiresAtMs ≤ timestampMs }

def cleanupExpiredConnections (timestampMs : ℤ) : Handler Unit := do
  (← loopOver w (← theService).driverTokens).forM (expireDriverToken w timestampMs)
  (← loopOver w (← theService).sessions).forM (expireSession w timestampMs)
  (← loopOver w (← theService).onlineVehicles).forM (expireVehicle config w timestampMs)
  (← loopOver w (← theService).onlineDrivers).forM (expireDriver config w timestampMs)
  cleanupMobileApprovals w

/-- A request that names the approval it goes by has to name a live one of its driver. -/
def checkNamedApproval (driverId requestId : String) (approval : Option MobileApproval) :
    Except Refusal Unit :=
  match approval with
  | none => .error (.conflict "连接申请已失效，请重新申请" "mobile_approval_stale")
  | some found => do
    rejectIf (found.requestId ≠ requestId ∨ found.driverId ≠ driverId)
      (.conflict "连接申请已失效，请重新申请" "mobile_approval_stale")
    rejectIf (¬found.state.Live)
      (.conflict "手机审批已过期或申请已结束，请重新申请连接" "mobile_approval_ended")

/-- Whether the record of a vehicle, where there is one, lets the driver through. -/
def judgeApproval (driverId : String) (approval : Option MobileApproval) :
    Except Refusal Bool :=
  match approval with
  | none => .ok false
  | some found => do
    rejectIf (found.state.Live ∧ found.driverId ≠ driverId)
      (.conflict "该车辆已有手机审批申请，请稍后重试" "mobile_approval_busy")
    rejectIf (found.state = .rejected)
      (.conflict "手机已拒绝本次申请，请在申请过期后重试" "mobile_approval_rejected")
    rejectIf (found.state = .pending)
      (.conflict "等待手机审批，同意后将自动连接" "mobile_approval_pending")
    .ok (found.state = .approved)

/-- `online_drivers_.at` and `online_vehicles_.at`. -/
def generationAt (presences : Table ConnectionPresence) (id : String) : Handler ℕ :=
  match presences.lookup id with
  | some presence => pure presence.generation
  | none => throw (.logicError "unordered_map::at: key not found")

/-- A new approval, which the connection request that asked for it has to wait for. -/
def requestMobileApproval (driverId vehicleId : String) : Handler Unit := do
  let token ← randomToken w
  let driverGeneration ← generationAt (← theService).onlineDrivers driverId
  let vehicleGeneration ← generationAt (← theService).onlineVehicles vehicleId
  let timestampMs ← nowMs w
  let ns ← steadyNow w
  let approval : MobileApproval := {
    requestId := "approval-" ++ token
    driverId := driverId
    state := .pending
    decidedBy := ""
    sessionId := ""
    driverGeneration := driverGeneration
    vehicleGeneration := vehicleGeneration
    expiresAtMs := timestampMs + config.mobileApprovalTimeoutMs
    deadline := ns + config.mobileApprovalTimeoutMs * 10 ^ 6 }
  let written ← tryAudit w ⟨"mobile_approval_requested",
    ← MobileApproval.details w vehicleId approval⟩
  refuseIf (written = false)
    (.serviceUnavailable "audit log unavailable; approval request is disabled")
  update fun s => { s with mobileApprovals := s.mobileApprovals.insert vehicleId approval }
  throw (.conflict "已发送手机审批申请，同意后将自动连接" "mobile_approval_pending")

/-- Returns where the vehicle needs no approval or has one; a new request is refused as well. -/
def requireMobileApproval (driverId vehicleId requestId : String) : Handler Unit :=
  if ¬config.RequiresApproval vehicleId then
    refuseIf (requestId ≠ "")
      (.conflict "车辆审批策略已变化，请重新申请连接" "mobile_approval_stale")
  else do
    cleanupMobileApprovals w
    let found := (← theService).mobileApprovals.lookup vehicleId
    whenever (requestId ≠ "") (liftResult (checkNamedApproval driverId requestId found))
    let granted ← liftResult (judgeApproval driverId found)
    whenever (granted = false) (requestMobileApproval config w driverId vehicleId)

end

end MineTeleop.Signaling
