import MineTeleop.Signaling.Moves

/-!
# The moves of every request

Proved here, for every configuration and every circumstances:

* `serve_follows`: what a request does to the sessions and the mailboxes is a sequence of moves,
  with the grounds that the request gives for them;
* `Connection.receive_follows`, `Connection.pending_follows`: so are the turns of a connection;
* `step_did`: so is every step of the machine.
-/

namespace MineTeleop.Signaling

open Documents Programs Tables Runs

variable {config : SignalingServerConfig} {w : Circumstances}

section
variable {g : Grounds} {α : Type}

/-! ## Requests -/

theorem closeSessions_follows (chosen : Session → Bool) (reason : String) :
    Within (Follows config g) (closeSessions w chosen reason) :=
  follows_moves (closeSessions_moves chosen reason)

theorem revokeDriver_follows (body : Json) :
    Within (Follows config g) (revokeDriver config w body) :=
  (follows_aside (Aside.administer _)).bind fun _ => (Within.refuseIf _ _).bind fun _ =>
    .bind (follows_away (Away.update fun _ => rfl)) fun _ =>
    (closeSessions_follows _ _).bind fun _ =>
    .bind (follows_away (Away.update fun _ => rfl)) fun _ =>
    (follows_aside (Aside.audit _)).bind fun _ => .pure _

theorem revokeVehicle_follows (body : Json) :
    Within (Follows config g) (revokeVehicle config w body) :=
  (follows_aside (Aside.administer _)).bind fun _ => (Within.refuseIf _ _).bind fun _ =>
    .bind (follows_away (Away.update fun _ => rfl)) fun _ =>
    (closeSessions_follows _ _).bind fun _ =>
    .bind (follows_away (Away.update fun _ => rfl)) fun _ =>
    (follows_aside (Aside.audit _)).bind fun _ => .pure _

theorem driverLogout_follows (body : Json) :
    Within (Follows config g) (driverLogout w body) :=
  (Within.liftResult _).bind fun _ => (Within.liftResult _).bind fun _ =>
    (follows_aside (Aside.validateDriverToken _ _)).bind fun _ =>
    (follows_aside Aside.theService).bind fun _ =>
    (follows_aside (Aside.generationAt _ _)).bind fun _ => (closeSessions_follows _ _).bind fun _ =>
    .bind (follows_away (Away.update fun _ => rfl)) fun _ => (Within.liftResult _).bind fun _ =>
    (follows_aside (Aside.audit _)).bind fun _ => .pure _

theorem vehicleOnline_follows (body : Json) :
    Within (Follows config g) (vehicleOnline config w body) := by
  refine (Within.liftResult _).bind fun vehicleId => (Within.liftResult _).bind fun _ =>
    (follows_aside (Aside.validateDeviceToken _ _)).bind fun _ =>
    (Within.liftResult _).bind fun connectionId => (follows_aside Aside.nowMs).bind fun _ =>
    (follows_aside Aside.theService).bind fun s => ?_
  dsimp only
  cases (s.onlineVehicles.lookup vehicleId).filter fun presence =>
      presence.connectionId = connectionId with
  | some presence =>
    exact .bind (follows_away (Away.update fun _ => rfl)) fun _ => .pure _
  | none =>
    refine .bind ?_ fun _ => (follows_aside Aside.theService).bind fun _ =>
      .bind (follows_away (Away.update fun _ => rfl)) fun _ =>
      (follows_aside (Aside.audit _)).bind fun _ => .pure _
    cases s.onlineVehicles.lookup vehicleId with
    | none => exact .pure _
    | some presence =>
      exact (closeSessions_follows _ _).bind fun _ => follows_aside (Aside.audit _)

theorem vehicleOffline_follows (body : Json) :
    Within (Follows config g) (vehicleOffline config w body) :=
  (Within.liftResult _).bind fun _ => (Within.liftResult _).bind fun _ =>
    (Within.liftResult _).bind fun _ =>
    (follows_aside (Aside.validateVehicleConnection _ _ _)).bind fun _ =>
    .bind (follows_away (Away.update fun _ => rfl)) fun _ =>
    (closeSessions_follows _ _).bind fun _ => (Within.liftResult _).bind fun _ =>
    (follows_aside (Aside.audit _)).bind fun _ => .pure _

theorem approvalCancel_follows (body : Json) :
    Within (Follows config g) (approvalCancel w body) := by
  refine (Within.liftResult _).bind fun _ => (Within.liftResult _).bind fun vehicleId =>
    (Within.liftResult _).bind fun _ =>
    (follows_aside (Aside.validateDriverToken _ _)).bind fun _ => (Within.liftResult _).bind fun _ =>
    (follows_aside Aside.theService).bind fun _ =>
    (follows_aside (Aside.generationAt _ _)).bind fun _ =>
    (follows_aside Aside.theService).bind fun s => ?_
  cases s.mobileApprovals.lookup vehicleId with
  | none => exact .throw _
  | some approval =>
    exact (Within.refuseIf _ _).bind fun _ =>
      (Within.whenever (follows_moves (closeSession_moves _ _))).bind fun _ =>
      .ite (.bind (follows_away (Away.update fun _ => rfl)) fun _ =>
        (follows_aside (Aside.details _ _)).bind fun _ =>
        (follows_aside (Aside.audit _)).bind fun _ => .pure _) (.pure _)

theorem renewSession_moves (sessionId : String) (body : Json) :
    Within (Moves config g) (renewSession config w sessionId body) := by
  refine (Within.liftResult _).bind fun actor c => ?_
  rw [ensures_bind]
  refine (requireParticipant_ensures sessionId actor).mono ?_ fun _ _ h => h ▸ .refl
  rintro session _ ⟨rfl, hfound, hactive, -⟩
  rw [ensures_bind]
  refine .refuseIf (fun _ => ?_) fun _ => .refl
  rw [ensures_bind]
  refine (Aside.validateActorCredential session actor body _).mono (fun _ c' haside => ?_)
    fun _ _ haside => .single (.aside haside.toAway)
  have hfound' := (congrArg (·.sessions.lookup sessionId) haside.traffic).trans hfound
  simp only [nowMs, ensures_bind, ensures_look, ensures_update]
  have hlook : Moves config g _ { c' with looks := c'.looks + 1 } :=
    .tail (.single (.aside haside.toAway)) (.aside ⟨rfl, List.prefix_rfl⟩)
  have hmove := fun expiresAtMs => hlook.tail (.renewed _ expiresAtMs hfound' hactive)
  exact audit_cases (fun _ _ h => (hmove _).tail (.aside h)) fun _ _ _ h =>
    (hmove _).tail (.aside h)

theorem closeAuthority_follows (sessionId : String) (body : Json) (byDefault event : String) :
    Within (Follows config g) (closeAuthority config w sessionId body byDefault event) :=
  (Within.liftResult _).bind fun _ => (follows_aside (Aside.requireParticipant _ _)).bind fun _ =>
    (follows_aside (Aside.validateActorCredential _ _ _)).bind fun _ =>
    (Within.liftResult _).bind fun _ => (follows_moves (closeSession_moves _ _)).bind fun _ =>
    (follows_aside (Aside.audit _)).bind fun _ => (follows_aside Aside.theService).bind fun _ =>
    .pure _

theorem pollMessages_follows (sessionId recipient types : String) (credentials : Json)
    (h : g.consumes (messageKey sessionId recipient) types) :
    Within (Follows config g) (pollMessages config w sessionId recipient types credentials) := by
  refine (Within.refuseIf _ _).bind fun _ =>
    (follows_aside (Aside.requireParticipant _ _)).bind fun _ =>
    (follows_aside (Aside.validateActorCredential _ _ _)).bind fun _ => .bind ?_ fun _ => .pure _
  exact follows_of_moves (takeSignalingMessages_moves sessionId recipient types fun _ => h)

def Request.grounds : Request → Grounds
  | .createSession _ => { Grounds.none with opens := True }
  | .postMessage .. => { Grounds.none with queues := True }
  | .pollMessages sessionId recipient types _ =>
    { Grounds.none with
      consumes := fun key requested => key = messageKey sessionId recipient ∧ requested = types }
  | _ => .none

theorem prepare_follows (request : Request) :
    Within (Follows config g) (request.prepare config w) := by
  have hcleanup : Within (Follows config g)
      (nowMs w >>= cleanupExpiredConnections config w) :=
    (follows_aside Aside.nowMs).bind fun _ => follows_moves (cleanup_moves _)
  cases request with
  | sessionLogs => exact .pure _
  | mobileLogin | mobileLogout | mobileRequests | mobileDecision =>
    exact (follows_aside Aside.nowMs).bind fun _ => (follows_moves (cleanup_moves _)).bind fun _ =>
      follows_away Apart.cleanupMobileApprovals.away
  | _ => exact hcleanup

theorem handle_follows (request : Request) :
    Within (Follows config request.grounds) (request.handle config w) := by
  cases request with
  | revokeDriver body => exact revokeDriver_follows body
  | restoreDriver body => exact follows_away (Away.restoreDriver body)
  | revokeVehicle body => exact revokeVehicle_follows body
  | restoreVehicle body => exact follows_away (Away.restoreVehicle body)
  | driverLogin body => exact follows_away (Away.driverLogin body)
  | driverHeartbeat body => exact follows_aside (Aside.driverHeartbeat body)
  | driverLogout body => exact driverLogout_follows body
  | vehicleOnline body => exact vehicleOnline_follows body
  | vehicleHeartbeat body => exact follows_aside (Aside.vehicleHeartbeat body)
  | vehicleOffline body => exact vehicleOffline_follows body
  | approvalCancel body => exact approvalCancel_follows body
  | createSession body => exact createSession_follows body trivial
  | renewSession sessionId body => exact follows_moves (renewSession_moves sessionId body)
  | endSession sessionId body => exact closeAuthority_follows sessionId body _ _
  | revokeAuthority sessionId body => exact closeAuthority_follows sessionId body _ _
  | report sessionId body records => exact follows_aside (Aside.report sessionId body records)
  | postMessage sessionId body =>
    exact (follows_of_moves (enqueueSignalingMessage_moves sessionId body none trivial)).bind
      fun _ => .pure _
  | authorizedVehicles driverId token =>
    exact follows_aside (Aside.authorizedVehicles driverId token)
  | pollMessages sessionId recipient types credentials =>
    exact pollMessages_follows sessionId recipient types credentials ⟨rfl, rfl⟩
  | vehicleSession vehicleId credentials =>
    exact follows_aside (Aside.vehicleSession vehicleId credentials)
  | readSession sessionId actor credentials =>
    exact follows_aside (Aside.readSession sessionId actor credentials)
  | iceServers sessionId actor credentials =>
    exact follows_aside (Aside.iceServers sessionId actor credentials)
  | mobileLogin source body => exact follows_aside (Aside.mobileLogin source body)
  | mobileLogout token => exact follows_aside (Aside.mobileLogout token)
  | mobileRequests token => exact follows_aside (Aside.mobileRequests token)
  | mobileDecision token requestId body =>
    exact follows_away (Apart.mobileDecision token requestId body).away
  | sessionLogs driverId token start =>
    exact (follows_aside (Aside.validateDriverToken driverId token)).bind fun _ =>
      (Within.whenever ((follows_aside Aside.nowMs).bind fun _ =>
        follows_moves (cleanup_moves _))).bind fun _ => .pure _

theorem serve_follows (request : Request) :
    Within (Follows config request.grounds) (request.serve config w) :=
  (prepare_follows request).bind fun _ => handle_follows request

/-! ## Connections -/

namespace Connection

/-- A message that is not an acknowledgement is a post. -/
def TakesPost (connection : Connection) (message : Json) : Prop :=
  connection.sendOnly = true ∨
    message.value "event" Json.getString "" ≠ .ok "signaling_delivery_ack"

def grounds (connection : Connection) (message : Json) : Grounds :=
  { Grounds.none with
    queues := connection.TakesPost message
    acknowledges := fun key deliveryCursor controlOnly =>
      key = messageKey connection.sessionId connection.participant ∧
        deliveryCursor ≤ connection.lastDeliveryCursorSent ∧
        controlOnly = connection.controlReceiveOnly }

variable (connection : Connection)

theorem authenticate_moves : Within (Moves config g) (connection.authenticate config w) :=
  (within_moves Aside.nowMs).bind fun _ => (cleanup_moves _).bind fun _ =>
    (within_moves (Aside.requireParticipant _ _)).bind fun _ =>
    (within_moves (Aside.validateActorCredential _ _ _)).bind fun _ => .pure _

theorem authenticate_follows :
    Within (Follows config g) (connection.authenticate config w) :=
  follows_moves connection.authenticate_moves

theorem admission_follows : Within (Follows config g) (connection.admission config w) :=
  (Within.refuseIf _ _).bind fun _ => (Within.refuseIf _ _).bind fun _ =>
    connection.authenticate_follows.bind fun _ => (Within.refuseIf _ _).bind fun _ =>
    (Within.refuseIf _ _).bind fun _ => .pure _

theorem pending_follows : Within (Follows config g) (connection.pending config w) := by
  refine connection.authenticate_follows.bind fun _ => .ite (.pure _) (.bind
    (follows_moves (takeSignalingMessages_moves _ _ _ nofun)) fun messages => ?_)
  cases messages.getLast? with
  | none => exact .pure _
  | some last => exact (follows_aside Aside.steadyNow).bind fun _ => .ite (.pure _) (.pure _)

theorem receiveAck_follows (message : Json) :
    Within (Follows config (connection.grounds message))
      (connection.receiveAck config w message) := by
  refine (Within.liftResult _).bind fun deliveryCursor => (Within.liftResult _).bind fun _ =>
    (Within.refuseIf _ _).bind fun _ => (Within.liftResult _).bind fun _ =>
    (Within.liftResult _).bind fun _ c => ?_
  rw [ensures_bind]
  refine .refuseIf (fun hsent => ?_) fun _ => .refl
  refine (connection.authenticate_follows.bind fun _ => .bind ?_ fun _ => .pure _) c
  exact follows_of_moves (acknowledgeSignalingMessages_moves ⟨rfl, not_lt.mp hsent, rfl⟩)

theorem receivePost_follows (message : Json) (hqueues : g.queues) :
    Within (Follows config g) (connection.receivePost config w message) :=
  (Within.refuseIf _ _).bind fun _ => connection.authenticate_follows.bind fun _ =>
    (Within.liftResult _).bind fun _ => (Within.refuseIf _ _).bind fun _ =>
    (follows_of_moves (enqueueSignalingMessage_moves _ _ _ hqueues)).bind fun _ => .pure _

theorem receive_follows (message : Json) :
    Within (Follows config (connection.grounds message))
      (connection.receive config w message) := by
  intro c
  refine .ite (fun hsendOnly => ?_) fun _ => ?_
  · exact connection.receivePost_follows message (Or.inl hsendOnly) c
  · rw [ensures_bind]
    refine .liftResult (fun event hevent => ?_) fun _ _ => .refl
    refine .ite (fun _ => connection.receiveAck_follows message c) fun hpost => ?_
    have htakes : connection.TakesPost message := by
      refine .inr fun hack => hpost ?_
      rw [hack] at hevent
      exact (Except.ok.inj hevent).symm
    exact connection.receivePost_follows message htakes c

end Connection

end

/-! ## Steps of the machine -/

def Action.grounds (station : Station) : Action → Grounds
  | .request asked => asked.grounds
  | .receive id message =>
    ((station.connections.lookup id).map (Connection.grounds · message)).getD .none
  | _ => .none

/-- What a call did to the traffic, seen from outside. -/
def Did (config : SignalingServerConfig) (g : Grounds) (before : SignalingService)
    (outcome : Outcome) (after : SignalingService) : Prop :=
  ∃ c', Follows config g (.start before) c' ∧ c'.service = after ∧ c'.asked = outcome.asked ∧
    c'.queued = outcome.queued

theorem did_of_exec {g : Grounds} {α : Type} {p : Handler α} (h : Within (Follows config g) p)
    (service : SignalingService) {outcome : Outcome}
    (hasked : outcome.asked = (p.exec (.start service)).2.asked)
    (hqueued : outcome.queued = (p.exec (.start service)).2.queued) :
    Did config g service outcome (p.exec (.start service)).2.service :=
  ⟨_, ensures_state.mp (h (.start service)), rfl, hasked.symm, hqueued.symm⟩

theorem did_nothing {g : Grounds} (service : SignalingService) :
    Did config g service .idle service :=
  ⟨.start service, .refl, rfl, rfl, rfl⟩

theorem step_did (station : Station) (occasion : Occasion) :
    Did config (occasion.2.grounds station) station.service (station.step config occasion).1
      (station.step config occasion).2.service := by
  obtain ⟨w, action⟩ := occasion
  cases action with
  | request request =>
    exact did_of_exec (p := request.serve config w) (serve_follows request) _ rfl rfl
  | reap =>
    exact did_of_exec (p := nowMs w >>= cleanupExpiredConnections config w)
      ((follows_aside Aside.nowMs).bind fun _ => follows_moves (cleanup_moves _)) _ rfl rfl
  | connect id sessionId participant credentials sendOnly controlReceiveOnly =>
    exact did_of_exec (p := Connection.admission config w ⟨sessionId, participant, credentials,
      sendOnly, controlReceiveOnly, 0, 0⟩) (Connection.admission_follows _) _ rfl rfl
  | turn id sendFails =>
    unfold Station.step
    dsimp only
    cases station.connections.lookup id with
    | none => exact did_nothing _
    | some connection =>
      have hdid := fun outcome => @did_of_exec config .none _ (connection.pending config w)
        connection.pending_follows station.service outcome
      dsimp only
      split
      · exact hdid _ rfl rfl
      · split <;> exact hdid _ rfl rfl
  | receive id message =>
    unfold Station.step Action.grounds
    dsimp only
    cases station.connections.lookup id with
    | none => exact did_nothing _
    | some connection =>
      exact did_of_exec (p := connection.receive config w message)
        (connection.receive_follows message) _ rfl rfl
  | disconnect id => exact did_nothing _

end MineTeleop.Signaling
