import MineTeleop.Signaling.Requests

/-!
# Calls that leave the traffic alone

Logins, credentials and approvals: what does not touch sessions and mailboxes.

Proved here: `Aside` of every program that only works on tokens, times and failed logins, whether
it returns or throws, and of every handler that is made of such programs; `Apart` of those that work
on approvals, and `Away` of those that let somebody come back.
-/

namespace MineTeleop.Signaling

open Documents Programs Tables Runs
open Service (ProtocolMetadata)

variable {config : SignalingServerConfig} {w : Circumstances}

/-! ## Calls that leave the traffic alone -/

/-- The part of a call that sessions and mailboxes make up. -/
structure Traffic where
  sessions : Table Session
  sessionCounter : ℕ
  messages : Table (List Message)
  latestControlMessages : Table Message
  lastAcceptedMessages : Table AcceptedMessage
  nextDeliveryCursors : Table ℕ
  queued : List Accepted

def Call.traffic (c : Call) : Traffic where
  sessions := c.service.sessions
  sessionCounter := c.service.sessionCounter
  messages := c.service.messages
  latestControlMessages := c.service.latestControlMessages
  lastAcceptedMessages := c.service.lastAcceptedMessages
  nextDeliveryCursors := c.service.nextDeliveryCursors
  queued := c.queued

inductive Party where
  | driver (id : String)
  | vehicle (id : String)
  deriving DecidableEq

def SignalingService.presence (service : SignalingService) : Party → Option ConnectionPresence
  | .driver id => service.onlineDrivers.lookup id
  | .vehicle id => service.onlineVehicles.lookup id

/-- The generations that are connected, and who is revoked. -/
structure Standing where
  generation : Party → Option ℕ
  revokedDrivers : Finset String
  revokedVehicles : Finset String

def Call.standing (c : Call) : Standing where
  generation party := (c.service.presence party).map (·.generation)
  revokedDrivers := c.service.revokedDrivers
  revokedVehicles := c.service.revokedVehicles

def Standing.Revoked (standing : Standing) : Party → Prop
  | .driver id => id ∈ standing.revokedDrivers
  | .vehicle id => id ∈ standing.revokedVehicles

/-- The traffic is as it was, and what has been asked for stays on record. -/
structure Away (c c' : Call) : Prop where
  traffic : c'.traffic = c.traffic
  asked : c.asked <+: c'.asked

/-- Nobody has come or gone, either. -/
structure Apart (c c' : Call) : Prop extends Away c c' where
  standing : c'.standing = c.standing

/-- The approvals are as they were, too. -/
structure Aside (c c' : Call) : Prop extends Apart c c' where
  approvals : c'.service.mobileApprovals = c.service.mobileApprovals

instance : Std.Refl Away := ⟨fun _ => ⟨rfl, List.prefix_rfl⟩⟩

instance : IsTrans Call Away :=
  ⟨fun _ _ _ h h' => ⟨h'.traffic.trans h.traffic, h.asked.trans h'.asked⟩⟩

instance : Std.Refl Apart := ⟨fun c => ⟨Std.Refl.refl c, rfl⟩⟩

instance : IsTrans Call Apart :=
  ⟨fun _ _ _ h h' => ⟨trans_of Away h.toAway h'.toAway, h'.standing.trans h.standing⟩⟩

instance : Std.Refl Aside := ⟨fun c => ⟨Std.Refl.refl c, rfl⟩⟩

instance : IsTrans Call Aside :=
  ⟨fun _ _ _ h h' => ⟨trans_of Apart h.toApart h'.toApart, h'.approvals.trans h.approvals⟩⟩

end MineTeleop.Signaling

namespace MineTeleop.Programs.Within

open Signaling

variable {α : Type} {p : Handler α}

theorem apart (h : Within Aside p) : Within Apart p := h.mono fun _ _ h => h.toApart

theorem away (h : Within Apart p) : Within Away p := h.mono fun _ _ h => h.toAway

end MineTeleop.Programs.Within

namespace MineTeleop.Signaling

open Documents Programs Tables Runs
open Service (ProtocolMetadata)

variable {config : SignalingServerConfig} {w : Circumstances}

theorem lookup_seen {presences : Table ConnectionPresence} (id id' : String) (timestampMs : ℤ) :
    ((presences.adjust id ({ · with lastSeenAtMs := timestampMs })).lookup id').map
      (·.generation) = (presences.lookup id').map (·.generation) := by
  rw [Table.lookup_adjust]
  split
  · rw [Option.map_map]
    rfl
  · rfl

theorem standing_seeDriver (c : Call) (driverId : String) (timestampMs : ℤ) :
    ({ c with service := c.service.seeDriver driverId timestampMs } : Call).standing =
      c.standing := by
  unfold Call.standing
  congr 1
  funext party
  cases party with
  | driver id => exact lookup_seen driverId id timestampMs
  | vehicle id => rfl

theorem standing_seeVehicle (c : Call) (vehicleId : String) (timestampMs : ℤ) :
    ({ c with service := c.service.seeVehicle vehicleId timestampMs } : Call).standing =
      c.standing := by
  unfold Call.standing
  congr 1
  funext party
  cases party with
  | driver id => rfl
  | vehicle id => exact lookup_seen vehicleId id timestampMs

theorem Away.update {f : SignalingService → SignalingService}
    (h : ∀ c : Call, ({ c with service := f c.service } : Call).traffic = c.traffic) :
    Within Away (update f) :=
  fun c => ⟨h c, List.prefix_rfl⟩

theorem Apart.update {f : SignalingService → SignalingService}
    (h : ∀ c : Call, ({ c with service := f c.service } : Call).traffic = c.traffic)
    (hstanding : ∀ c : Call, ({ c with service := f c.service } : Call).standing = c.standing) :
    Within Apart (update f) :=
  fun c => ⟨⟨h c, List.prefix_rfl⟩, hstanding c⟩

namespace Aside

theorem theService : Within Aside theService := fun c => Std.Refl.refl c

theorem look {α : Type} (reading : ℕ → α) : Within Aside (look reading) :=
  fun _ => ⟨⟨⟨rfl, List.prefix_rfl⟩, rfl⟩, rfl⟩

theorem update {f : SignalingService → SignalingService}
    (h : ∀ c : Call, ({ c with service := f c.service } : Call).traffic = c.traffic)
    (hstanding : ∀ c : Call, ({ c with service := f c.service } : Call).standing = c.standing)
    (happrovals : ∀ c : Call, (f c.service).mobileApprovals = c.service.mobileApprovals) :
    Within Aside (update f) :=
  fun c => ⟨⟨⟨h c, List.prefix_rfl⟩, hstanding c⟩, happrovals c⟩

theorem nowMs : Within Aside (nowMs w) := look _

theorem steadyNow : Within Aside (steadyNow w) := look _

theorem monotonicNowMs : Within Aside (monotonicNowMs w) := steadyNow.bind fun _ => .pure _

theorem randomToken : Within Aside (randomToken w) :=
  (look w.random).bind fun token => by
    cases token with
    | none => exact .throw _
    | some token => exact .pure _

theorem loopOver {α : Type} (table : Table α) : Within Aside (loopOver w table) := look _

theorem audit (record : AuditRecord) : Within Aside (audit w record) := fun _ =>
  .refuseIf (fun _ => ⟨⟨⟨rfl, List.prefix_append _ _⟩, rfl⟩, rfl⟩) fun _ =>
    ⟨⟨⟨rfl, List.prefix_append _ _⟩, rfl⟩, rfl⟩

theorem tryAudit (record : AuditRecord) : Within Aside (tryAudit w record) :=
  .tryCatch (.bind (audit record) fun _ => .pure _) fun _ => .pure _

theorem validateDriverToken (driverId token : String) :
    Within Aside (validateDriverToken w driverId token) := by
  refine theService.bind fun _ => (Within.refuseIf _ _).bind fun _ => theService.bind fun s => ?_
  cases s.driverTokens.lookup token with
  | none => exact .throw _
  | some found =>
    exact (Within.refuseIf _ _).bind fun _ => nowMs.bind fun _ =>
      (Within.refuseIf _ _).bind fun _ => theService.bind fun _ =>
      (Within.refuseIf _ _).bind fun _ => nowMs.bind fun timestampMs =>
      update (fun _ => rfl) (fun c => standing_seeDriver c driverId timestampMs) fun _ => rfl

theorem validateDeviceToken (vehicleId token : String) :
    Within Aside (validateDeviceToken config vehicleId token) :=
  theService.bind fun _ => (Within.refuseIf _ _).bind fun _ => .refuseIf _ _

theorem validateVehicleConnection (vehicleId token : String) (generation : ℕ) :
    Within Aside (validateVehicleConnection config w vehicleId token generation) := by
  refine (validateDeviceToken vehicleId token).bind fun _ => theService.bind fun s => ?_
  cases s.onlineVehicles.lookup vehicleId with
  | none => exact .throw _
  | some presence =>
    exact (Within.refuseIf _ _).bind fun _ => nowMs.bind fun timestampMs =>
      update (fun _ => rfl) (fun c => standing_seeVehicle c vehicleId timestampMs) fun _ => rfl

theorem validateActorCredential (session : Session) (actor : String) (value : Json) :
    Within Aside (validateActorCredential config w session actor value) :=
  .ite ((Within.liftResult _).bind fun _ => validateDriverToken _ _)
    (.ite ((Within.liftResult _).bind fun _ => (Within.liftResult _).bind fun _ =>
      validateVehicleConnection _ _ _) (.throw _))

theorem requireActiveSession (sessionId : String) :
    Within Aside (requireActiveSession sessionId) := by
  refine theService.bind fun s => ?_
  cases s.sessions.lookup sessionId with
  | none => exact .throw _
  | some session => exact (Within.refuseIf _ _).bind fun _ => .pure _

theorem requireParticipant (sessionId participant : String) :
    Within Aside (requireParticipant sessionId participant) :=
  (requireActiveSession sessionId).bind fun _ => (Within.refuseIf _ _).bind fun _ => .pure _

/-! ### Approvals -/

theorem details (vehicleId : String) (approval : MobileApproval) :
    Within Aside (MobileApproval.details w vehicleId approval) :=
  steadyNow.bind fun _ => .pure _

theorem approvalEnd (vehicleId : String) (approval : MobileApproval) :
    Within Aside (approvalEnd w vehicleId approval) :=
  theService.bind fun _ => .ite (.pure _) (steadyNow.bind fun _ => .ite (.pure _) (.pure _))

theorem generationAt (presences : Table ConnectionPresence) (id : String) :
    Within Aside (generationAt presences id) := by
  unfold Signaling.generationAt
  cases presences.lookup id with
  | none => exact .throw _
  | some presence => exact .pure _

/-! ### Logins -/

theorem approverLoginBucket (source : String) (timestampMs : ℤ) :
    Within Aside (approverLoginBucket config source timestampMs) :=
  theService.bind fun _ => .bind (.whenever (update (fun _ => rfl) (fun _ => rfl) fun _ => rfl)) fun _ =>
    theService.bind fun _ => .ite (.pure _) (.pure _)

theorem enforceLoginRateLimit (id : String) (timestampMs : ℤ) (approver : Bool) :
    Within Aside (enforceLoginRateLimit config id timestampMs approver) := by
  refine theService.bind fun s => ?_
  cases s.loginFailures.lookup (loginBucket config id approver) with
  | none => exact .pure _
  | some state =>
    exact (Within.refuseIf _ _).bind fun _ => .whenever (update (fun _ => rfl) (fun _ => rfl) fun _ => rfl)

theorem recordLoginFailure (id : String) (timestampMs : ℤ) (approver : Bool) :
    Within Aside (recordLoginFailure config w id timestampMs approver) :=
  theService.bind fun _ => .bind (update (fun _ => rfl) (fun _ => rfl) fun _ => rfl) fun _ => (audit _).bind fun _ =>
    .whenever ((audit _).bind fun _ => .throw _)

theorem administer (body : Json) : Within Aside (administer config body) :=
  (Within.refuseIf _ _).bind fun _ => (Within.liftResult _).bind fun _ =>
    (Within.refuseIf _ _).bind fun _ => .liftResult _

theorem requireKnown (table : Table String) (id what : String) :
    Within Aside (requireKnown table id what) :=
  .refuseIf _ _

theorem requireApprover (token : String) : Within Aside (requireApprover token) := by
  refine theService.bind fun s => ?_
  cases s.approverTokens.lookup token with
  | none => exact .throw _
  | some found => exact .pure _

theorem findApproval (requestId : String) : Within Aside (findApproval config w requestId) :=
  theService.bind fun _ => (loopOver _).bind fun _ => .pure _

end Aside

/-! ## Approvals -/

namespace Apart

theorem cleanupMobileApproval (vehicleId : String) :
    Within Apart (cleanupMobileApproval w vehicleId) := by
  refine Aside.theService.apart.bind fun s => ?_
  cases s.mobileApprovals.lookup vehicleId with
  | none => exact .pure _
  | some approval =>
    refine .whenever ((Aside.approvalEnd vehicleId approval).apart.bind fun next => ?_)
    cases next with
    | none => exact .pure _
    | some next =>
      exact .bind (update (fun _ => rfl) fun _ => rfl) fun _ =>
        (Aside.details _ _).apart.bind fun _ => (Aside.tryAudit _).apart.bind fun _ => .pure _

theorem cleanupMobileApprovals : Within Apart (cleanupMobileApprovals w) :=
  Aside.theService.apart.bind fun _ => (Aside.loopOver _).apart.bind fun keys =>
    (Within.forM cleanupMobileApproval keys).bind fun _ => Aside.nowMs.apart.bind fun _ =>
    update (fun _ => rfl) fun _ => rfl

theorem requestMobileApproval (driverId vehicleId : String) :
    Within Apart (requestMobileApproval config w driverId vehicleId) :=
  Aside.randomToken.apart.bind fun _ => Aside.theService.apart.bind fun _ =>
    (Aside.generationAt _ _).apart.bind fun _ => Aside.theService.apart.bind fun _ =>
    (Aside.generationAt _ _).apart.bind fun _ => Aside.nowMs.apart.bind fun _ =>
    Aside.steadyNow.apart.bind fun _ => (Aside.details _ _).apart.bind fun _ =>
    (Aside.tryAudit _).apart.bind fun _ => (Within.refuseIf _ _).bind fun _ =>
    .bind (update (fun _ => rfl) fun _ => rfl) fun _ => .throw _

theorem requireMobileApproval (driverId vehicleId requestId : String) :
    Within Apart (requireMobileApproval config w driverId vehicleId requestId) :=
  .ite (.refuseIf _ _) (cleanupMobileApprovals.bind fun _ => Aside.theService.apart.bind fun _ =>
    (Within.whenever (.liftResult _)).bind fun _ => (Within.liftResult _).bind fun _ =>
    .whenever (requestMobileApproval driverId vehicleId))

/-- The approval of a new session is used up. -/
theorem consumeApproval (driverId vehicleId requestId : String) :
    Within Apart (consumeApproval config w driverId vehicleId requestId) := by
  refine Aside.theService.apart.bind fun s => ?_
  cases s.mobileApprovals.lookup vehicleId with
  | none => exact .throw _
  | some approval =>
    exact (Aside.details _ _).apart.bind fun _ => (Aside.tryAudit _).apart.bind fun _ =>
      (Within.refuseIf _ _).bind fun _ => (requireMobileApproval _ _ _).bind fun _ =>
      update (fun _ => rfl) fun _ => rfl

theorem authorizeSession (driverId vehicleId : String) (body : Json) :
    Within Apart (authorizeSession config w driverId vehicleId body) :=
  (Within.liftResult _).bind fun _ => (Aside.validateDriverToken _ _).apart.bind fun _ =>
    (Within.whenever ((Aside.audit _).apart.bind fun _ => .throw _)).bind fun _ =>
    Aside.theService.apart.bind fun _ => (Within.refuseIf _ _).bind fun _ =>
    Aside.theService.apart.bind fun _ =>
    (Within.whenever ((Aside.audit _).apart.bind fun _ => .throw _)).bind fun _ =>
    (Within.liftResult _).bind fun _ => (requireMobileApproval _ _ _).bind fun _ =>
    (Aside.tryAudit _).apart.bind fun _ => (Within.refuseIf _ _).bind fun _ =>
    .whenever (consumeApproval _ _ _)

theorem decideApproval (vehicleId approverId : String) (next : ApprovalState) :
    Within Apart (decideApproval w vehicleId approverId next) := by
  refine Aside.theService.apart.bind fun s => ?_
  cases s.mobileApprovals.lookup vehicleId with
  | none => exact .throw _
  | some approval =>
    exact .ite (.pure _) ((Within.refuseIf _ _).bind fun _ => (Aside.details _ _).apart.bind fun _ =>
      (Aside.tryAudit _).apart.bind fun _ => (Within.refuseIf _ _).bind fun _ =>
      .bind (update (fun _ => rfl) fun _ => rfl) fun _ => .pure _)

theorem mobileDecision (token requestId : String) (body : Json) :
    Within Apart (mobileDecision config w token requestId body) := by
  refine (Aside.requireApprover _).apart.bind fun _ => (Within.liftResult _).bind fun _ =>
    (Within.refuseIf _ _).bind fun _ => (Aside.findApproval _).apart.bind fun found => ?_
  cases found with
  | none => exact .throw _
  | some vehicleId => exact decideApproval _ _ _

end Apart

/-! ## Coming back -/

namespace Away

theorem restoreDriver (body : Json) : Within Away (restoreDriver config w body) :=
  (Aside.administer _).apart.away.bind fun _ => (Within.refuseIf _ _).bind fun _ =>
    .bind (update fun _ => rfl) fun _ => (Aside.audit _).apart.away.bind fun _ => .pure _

theorem restoreVehicle (body : Json) : Within Away (restoreVehicle config w body) :=
  (Aside.administer _).apart.away.bind fun _ => (Within.refuseIf _ _).bind fun _ =>
    .bind (update fun _ => rfl) fun _ => (Aside.audit _).apart.away.bind fun _ => .pure _

theorem driverLogin (body : Json) : Within Away (driverLogin config w body) :=
  (Within.liftResult _).bind fun _ => (Within.liftResult _).bind fun _ =>
    Aside.nowMs.apart.away.bind fun _ => (Aside.enforceLoginRateLimit _ _ _).apart.away.bind fun _ =>
    (Within.whenever ((Aside.recordLoginFailure _ _ _).apart.away.bind fun _ => .throw _)).bind fun _ =>
    .bind (update fun _ => rfl) fun _ => Aside.theService.apart.away.bind fun _ =>
    (Within.whenever ((Aside.audit _).apart.away.bind fun _ => .throw _)).bind fun _ =>
    Aside.theService.apart.away.bind fun _ =>
    (Within.whenever ((Aside.audit _).apart.away.bind fun _ => .throw _)).bind fun _ =>
    Aside.theService.apart.away.bind fun _ => .bind (update fun _ => rfl) fun _ =>
    Aside.randomToken.apart.away.bind fun _ => .bind (update fun _ => rfl) fun _ =>
    (Aside.audit _).apart.away.bind fun _ => .pure _

end Away

/-! ## Requests -/

theorem Aside.authenticateSender (session : Session) (sender : String) (value : Json)
    (actor : Option String) :
    Within Aside (authenticateSender config w session sender value actor) := by
  cases actor with
  | some actor => exact .refuseIf _ _
  | none => exact validateActorCredential _ _ _

theorem Aside.driverHeartbeat (body : Json) : Within Aside (driverHeartbeat w body) := by
  refine (Within.liftResult _).bind fun driverId => (Within.liftResult _).bind fun _ =>
    (validateDriverToken _ _).bind fun _ => theService.bind fun s => ?_
  cases s.onlineDrivers.lookup driverId with
  | none => exact .throw _
  | some presence => exact .pure _

theorem Aside.authorizedVehicles (driverId token : String) :
    Within Aside (authorizedVehicles config w driverId token) :=
  (validateDriverToken _ _).bind fun _ => theService.bind fun _ => (loopOver _).bind fun _ =>
    (audit _).bind fun _ => .pure _

theorem Aside.vehicleHeartbeat (body : Json) : Within Aside (vehicleHeartbeat config w body) := by
  refine (Within.liftResult _).bind fun vehicleId => (Within.liftResult _).bind fun _ =>
    (Within.liftResult _).bind fun _ => (validateVehicleConnection _ _ _).bind fun _ =>
    theService.bind fun s => ?_
  cases s.onlineVehicles.lookup vehicleId with
  | none => exact .throw _
  | some presence => exact .pure _

theorem Aside.vehicleSession (vehicleId : String) (credentials : Json) :
    Within Aside (vehicleSession config w vehicleId credentials) :=
  (Within.liftResult _).bind fun _ => (Within.liftResult _).bind fun _ =>
    (validateVehicleConnection _ _ _).bind fun _ => theService.bind fun _ =>
    (loopOver _).bind fun _ => .pure _

theorem Aside.mobileLogin (source : String) (body : Json) :
    Within Aside (mobileLogin config w source body) :=
  nowMs.bind fun _ => (approverLoginBucket _ _).bind fun _ =>
    (enforceLoginRateLimit _ _ _).bind fun _ => (Within.liftResult _).bind fun _ =>
    (Within.whenever ((recordLoginFailure _ _ _).bind fun _ => .throw _)).bind fun _ =>
    .bind (update (fun _ => rfl) (fun _ => rfl) fun _ => rfl) fun _ => randomToken.bind fun _ => randomToken.bind fun _ =>
    nowMs.bind fun _ => .bind (update (fun _ => rfl) (fun _ => rfl) fun _ => rfl) fun _ => (audit _).bind fun _ => .pure _

theorem Aside.mobileLogout (token : String) : Within Aside (mobileLogout w token) :=
  (requireApprover _).bind fun _ => .bind (update (fun _ => rfl) (fun _ => rfl) fun _ => rfl) fun _ =>
    (audit _).bind fun _ => .pure _

theorem Aside.mobileRequests (token : String) : Within Aside (mobileRequests config token) :=
  (requireApprover _).bind fun _ => theService.bind fun _ => .pure _

theorem Aside.report (sessionId : String) (body : Json)
    (records : Session → String → Except Refusal (List AuditRecord)) :
    Within Aside (report config w sessionId body records) :=
  (Within.liftResult _).bind fun _ => (requireParticipant _ _).bind fun _ =>
    (validateActorCredential _ _ _).bind fun _ => (Within.liftResult _).bind fun asked =>
    (Within.forM audit asked).bind fun _ => .pure _

theorem Aside.readSession (sessionId actor : String) (credentials : Json) :
    Within Aside (readSession config w sessionId actor credentials) :=
  (requireParticipant _ _).bind fun _ => (validateActorCredential _ _ _).bind fun _ => .pure _

theorem Aside.iceServers (sessionId actor : String) (credentials : Json) :
    Within Aside (iceServers config w sessionId actor credentials) :=
  (requireParticipant _ _).bind fun _ => (validateActorCredential _ _ _).bind fun _ =>
    (Within.whenever (nowMs.bind fun _ => .pure _)).bind fun _ => (audit _).bind fun _ => .pure _

end MineTeleop.Signaling
