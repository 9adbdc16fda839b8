import MineTeleop.Signaling.Authority
import MineTeleop.Signaling.Steps

/-!
# Exclusive authority, request by request

Proved here, for every configuration and under a log that writes:

* `Held.enqueueSignalingMessage`, `Held.takeSignalingMessages`: mailboxes have no part in it;
* `renewSession_keeps`, `closeAuthority_keeps`, `approvalCancel_keeps`: what the parties of a session
  do to it keeps the invariant of `Exclusive`;
* `revokeDriver_keeps`, `driverLogout_keeps`, `vehicleOffline_keeps` and the like: so does a party
  that goes.
-/

namespace MineTeleop.Signaling

open Documents Programs Tables Runs

variable {config : SignalingServerConfig} {w : Circumstances} {c c' : Call}
  {generations : String → Party → ℕ} {owing : Set Party}

/-! ## Mailboxes -/

namespace Held

theorem of_aside {α : Type} {p : Handler α} (h : Within Aside p) : Within Held p :=
  h.mono fun _ _ h => h.toApart.held

theorem update {f : SignalingService → SignalingService}
    (hsessions : ∀ service, (f service).sessions = service.sessions)
    (hcounter : ∀ service, (f service).sessionCounter = service.sessionCounter)
    (hstanding : ∀ c : Call, ({ c with service := f c.service } : Call).standing = c.standing) :
    Within Held (update f) :=
  fun c => ⟨hsessions _, hcounter _, hstanding c⟩

theorem takeSignalingMessages (sessionId recipient requested : String) (consume : Bool) :
    Within Held (takeSignalingMessages config w sessionId recipient requested consume) :=
  (of_aside Aside.monotonicNowMs).bind fun _ =>
    .bind (update (fun _ => rfl) (fun _ => rfl) fun _ => rfl) fun _ =>
    (of_aside Aside.theService).bind fun _ =>
    .bind (.whenever (update (fun _ => rfl) (fun _ => rfl) fun _ => rfl)) fun _ => .pure _

theorem acknowledgeSignalingMessages (sessionId recipient : String) (deliveryCursor : ℕ)
    (controlOnly : Bool) :
    Within Held (acknowledgeSignalingMessages sessionId recipient deliveryCursor controlOnly) :=
  (of_aside Aside.theService).bind fun _ =>
    .bind (update (fun _ => rfl) (fun _ => rfl) fun _ => rfl) fun _ =>
    (of_aside Aside.theService).bind fun _ => .pure _

theorem deliver (post : Post) (message : Message) :
    Within Held (Signaling.update (·.deliver post message)) := by
  refine update (fun _ => ?_) (fun _ => ?_) fun _ => ?_
  all_goals
    unfold SignalingService.deliver
    split <;> rfl

theorem queueMessage (receivedAtUtcMs receivedMonotonicMs : ℤ) (post : Post) :
    Within Held (queueMessage w receivedAtUtcMs receivedMonotonicMs post) :=
  (of_aside Aside.theService).bind fun _ =>
    .bind (update (fun _ => rfl) (fun _ => rfl) fun _ => rfl) fun _ =>
    (of_aside Aside.nowMs).bind fun _ => (of_aside Aside.monotonicNowMs).bind fun _ =>
    (deliver _ _).bind fun _ => (of_aside Aside.theService).bind fun _ =>
    .bind (update (fun _ => rfl) (fun _ => rfl) fun _ => rfl) fun _ =>
    .bind (Within.modify fun _ => ⟨rfl, rfl, rfl⟩) fun _ =>
    (Within.whenever (of_aside (Aside.audit _))).bind fun _ => .pure _

theorem enqueueSignalingMessage (sessionId : String) (value : Json) (actor : Option String) :
    Within Held (enqueueSignalingMessage config w sessionId value actor) := by
  refine (of_aside Aside.nowMs).bind fun _ => (of_aside Aside.monotonicNowMs).bind fun _ =>
    .bind (of_aside fun c => (admitMessage_admits sessionId value actor).mono (fun _ _ h => h.1)
      fun _ _ h => h) fun post => (of_aside Aside.theService).bind fun s => ?_
  cases s.verdict post with
  | older => exact .throw _
  | reused => exact .throw _
  | retry acknowledgement => exact (of_aside (Aside.audit _)).bind fun _ => .pure _
  | next => exact queueMessage _ _ post

end Held

/-! ## Requests -/

theorem keeps_renew (sessionId : String) (expiresAtMs : ℤ) :
    Within (Keeps config generations) (update (·.renew sessionId expiresAtMs)) := by
  refine fun c hc => hc.shrunk ⟨rfl, rfl, fun id session' hfound => ?_⟩
  replace hfound := (Table.lookup_adjust _).symm.trans hfound
  split at hfound
  · obtain ⟨session, hearlier, rfl⟩ := Option.map_eq_some_iff.mp hfound
    exact ⟨session, hearlier, rfl, rfl, .inr rfl⟩
  · exact ⟨session', hfound, rfl, rfl, .inr rfl⟩

theorem renewSession_keeps (sessionId : String) (body : Json) :
    Within (Keeps config generations) (renewSession config w sessionId body) :=
  (Within.liftResult _).bind fun _ => (keeps_aside (Aside.requireParticipant _ _)).bind fun _ =>
    (Within.refuseIf _ _).bind fun _ =>
    (keeps_aside (Aside.validateActorCredential _ _ _)).bind fun _ =>
    (keeps_aside Aside.nowMs).bind fun _ => (keeps_renew _ _).bind fun _ =>
    (keeps_aside (Aside.audit _)).bind fun _ => (keeps_aside Aside.theService).bind fun _ =>
    .pure _

theorem restoreDriver_keeps (body : Json) :
    Within (Keeps config generations) (restoreDriver config w body) := by
  refine (keeps_aside (Aside.administer _)).bind fun driverId => (Within.refuseIf _ _).bind fun _ =>
    .bind (fun c hc => ?_) fun _ => (keeps_aside (Aside.audit _)).bind fun _ => .pure _
  refine hc.of_sessions rfl rfl hc.connected fun party howing honline hrevoked => ?_
  refine hc.welcome party howing honline ?_
  cases party with
  | driver id => exact Finset.mem_of_mem_erase hrevoked
  | vehicle id => exact hrevoked

theorem restoreVehicle_keeps (body : Json) :
    Within (Keeps config generations) (restoreVehicle config w body) := by
  refine (keeps_aside (Aside.administer _)).bind fun vehicleId =>
    (Within.refuseIf _ _).bind fun _ => .bind (fun c hc => ?_) fun _ =>
    (keeps_aside (Aside.audit _)).bind fun _ => .pure _
  refine hc.of_sessions rfl rfl hc.connected fun party howing honline hrevoked => ?_
  refine hc.welcome party howing honline ?_
  cases party with
  | driver id => exact hrevoked
  | vehicle id => exact Finset.mem_of_mem_erase hrevoked

section
variable (hwrites : w.Writes)
include hwrites

theorem revokeDriver_keeps (body : Json) :
    Within (Keeps config generations) (revokeDriver config w body) := by
  refine (keeps_aside (Aside.administer _)).bind fun driverId => (Within.refuseIf _ _).bind fun _ =>
    keeps_of fun c hc => ?_
  have howing : Exclusive config generations {.driver driverId}
      { c with service := { c.service with
        revokedDrivers := insert driverId c.service.revokedDrivers } } := by
    refine hc.owe ⟨rfl, rfl, fun _ _ => rfl, fun other hother => ?_⟩
    cases other with
    | driver id => exact Finset.mem_insert.trans (or_iff_right fun h => hother (congrArg _ h))
    | vehicle id => exact Iff.rfl
  rw [ensures_bind, ensures_update]
  refine ((closeSessions_relieves hwrites howing has_driver "driver_revoked").mono
    (fun _ _ h => h.1) fun _ _ => False.elim).bind fun _ c₁ hrelieved => ?_
  rw [ensures_bind, ensures_update]
  have hleft := hrelieved.leave Set.Subset.rfl (onlyMoved_eraseDriver c₁ driverId
    (c₁.service.driverTokens.eraseIf fun _ token => token.driverId = driverId))
    (AList.lookup_erase driverId c₁.service.onlineDrivers)
  exact exclusive_of_keeps ((keeps_aside (Aside.audit _)).bind fun _ => .pure _) hleft

theorem revokeVehicle_keeps (body : Json) :
    Within (Keeps config generations) (revokeVehicle config w body) := by
  refine (keeps_aside (Aside.administer _)).bind fun vehicleId =>
    (Within.refuseIf _ _).bind fun _ => keeps_of fun c hc => ?_
  have howing : Exclusive config generations {.vehicle vehicleId}
      { c with service := { c.service with
        revokedVehicles := insert vehicleId c.service.revokedVehicles } } := by
    refine hc.owe ⟨rfl, rfl, fun _ _ => rfl, fun other hother => ?_⟩
    cases other with
    | driver id => exact Iff.rfl
    | vehicle id => exact Finset.mem_insert.trans (or_iff_right fun h => hother (congrArg _ h))
  rw [ensures_bind, ensures_update]
  refine ((closeSessions_relieves hwrites howing has_vehicle "vehicle_revoked").mono
    (fun _ _ h => h.1) fun _ _ => False.elim).bind fun _ c₁ hrelieved => ?_
  rw [ensures_bind, ensures_update]
  have hleft := hrelieved.leave Set.Subset.rfl (onlyMoved_eraseVehicle c₁ vehicleId)
    (AList.lookup_erase vehicleId c₁.service.onlineVehicles)
  exact exclusive_of_keeps ((keeps_aside (Aside.audit _)).bind fun _ => .pure _) hleft

theorem driverLogout_keeps (body : Json) :
    Within (Keeps config generations) (driverLogout w body) := by
  refine (Within.liftResult _).bind fun driverId => (Within.liftResult _).bind fun token =>
    (keeps_aside (Aside.validateDriverToken _ _)).bind fun _ =>
    (keeps_aside Aside.theService).bind fun _ =>
    (keeps_aside (Aside.generationAt _ _)).bind fun generation => ?_
  have hleave : Within (Keeps config generations) (do
      closeSessionsForDriver w driverId "driver_logout"
      update fun s => { s with
        driverTokens := s.driverTokens.erase token
        onlineDrivers := s.onlineDrivers.erase driverId }) := by
    refine keeps_of fun c hc => ?_
    refine ((closeSessions_relieves hwrites hc has_driver "driver_logout").mono
      (fun _ _ h => h.1) fun _ _ => False.elim).bind fun _ c₁ hrelieved => ?_
    exact hrelieved.leave (Set.empty_subset _) (onlyMoved_eraseDriver c₁ driverId _)
      (AList.lookup_erase driverId c₁.service.onlineDrivers)
  rw [← bind_assoc]
  exact hleave.bind fun _ => (Within.liftResult _).bind fun _ =>
    (keeps_aside (Aside.audit _)).bind fun _ => .pure _

theorem vehicleOffline_keeps (body : Json) :
    Within (Keeps config generations) (vehicleOffline config w body) := by
  refine (Within.liftResult _).bind fun vehicleId => (Within.liftResult _).bind fun _ =>
    (Within.liftResult _).bind fun _ =>
    (keeps_aside (Aside.validateVehicleConnection _ _ _)).bind fun _ => ?_
  rw [← bind_assoc]
  exact .bind (leave_keeps hwrites has_vehicle _ (fun c => onlyMoved_eraseVehicle c _)
    fun service => AList.lookup_erase _ service.onlineVehicles) fun _ =>
    (Within.liftResult _).bind fun _ => (keeps_aside (Aside.audit _)).bind fun _ => .pure _

theorem approvalCancel_keeps (body : Json) :
    Within (Keeps config generations) (approvalCancel w body) := by
  refine (Within.liftResult _).bind fun _ => (Within.liftResult _).bind fun vehicleId =>
    (Within.liftResult _).bind fun _ =>
    (keeps_aside (Aside.validateDriverToken _ _)).bind fun _ => (Within.liftResult _).bind fun _ =>
    (keeps_aside Aside.theService).bind fun _ => (keeps_aside (Aside.generationAt _ _)).bind fun _ =>
    (keeps_aside Aside.theService).bind fun s => ?_
  cases s.mobileApprovals.lookup vehicleId with
  | none => exact .throw _
  | some approval =>
    exact (Within.refuseIf _ _).bind fun _ =>
      (Within.whenever (closeSession_keeps hwrites _ _)).bind fun _ =>
      .ite (.bind (keeps_apart (Apart.update (fun _ => rfl) fun _ => rfl)) fun _ =>
        (keeps_aside (Aside.details _ _)).bind fun _ =>
        (keeps_aside (Aside.audit _)).bind fun _ => .pure _) (.pure _)

theorem closeAuthority_keeps (sessionId : String) (body : Json) (byDefault event : String) :
    Within (Keeps config generations) (closeAuthority config w sessionId body byDefault event) :=
  (Within.liftResult _).bind fun _ => (keeps_aside (Aside.requireParticipant _ _)).bind fun _ =>
    (keeps_aside (Aside.validateActorCredential _ _ _)).bind fun _ =>
    (Within.liftResult _).bind fun _ => (closeSession_keeps hwrites _ _).bind fun _ =>
    (keeps_aside (Aside.audit _)).bind fun _ => (keeps_aside Aside.theService).bind fun _ =>
    .pure _

end

end MineTeleop.Signaling
