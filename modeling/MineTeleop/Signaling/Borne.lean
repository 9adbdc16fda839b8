import MineTeleop.Signaling.Aside

/-!
# Requests that only close sessions

Most handlers let parties come and go and close sessions, and touch neither mailboxes nor approvals
in any other way.  A relation between the calls before and after that closing a session bears is
borne by all of them.

Proved here, for every such relation:

* `Borne.closeSessions`, `Borne.cleanup`: the loops over sessions and the cleanup;
* `Borne.revokeDriver`, `Borne.driverLogin`, `Borne.vehicleOnline` and the like: the requests by
  which parties come and go.
-/

namespace MineTeleop.Signaling

open Documents Programs Tables

/-- The relation is borne by what these handlers are made of. -/
structure Borne (w : Circumstances) (rel : Call → Call → Prop) : Prop where
  aside : ∀ c c', Aside c c' → rel c c'
  updates : ∀ f : SignalingService → SignalingService,
    (∀ c : Call, ({ c with service := f c.service } : Call).traffic = c.traffic) →
    (∀ service, (f service).mobileApprovals = service.mobileApprovals) → Within rel (update f)
  closes : ∀ sessionId reason, Within rel (closeSession w sessionId reason)
  approvals : Within rel (cleanupMobileApprovals w)

namespace Borne

variable {config : SignalingServerConfig} {w : Circumstances} {rel : Call → Call → Prop}
  [Std.Refl rel] [IsTrans Call rel]

omit [Std.Refl rel] [IsTrans Call rel] in
theorem within {α : Type} {p : Handler α} (h : Borne w rel) (hp : Within Aside p) :
    Within rel p :=
  hp.mono h.aside

omit [Std.Refl rel] [IsTrans Call rel] in
/-- An update of tokens, presences and revocations. -/
theorem update {f : SignalingService → SignalingService} (h : Borne w rel)
    (htraffic : ∀ c : Call, ({ c with service := f c.service } : Call).traffic = c.traffic)
    (happrovals : ∀ service, (f service).mobileApprovals = service.mobileApprovals) :
    Within rel (Signaling.update f) :=
  h.updates f htraffic happrovals

theorem closeSessions (h : Borne w rel) (chosen : Session → Bool) (reason : String) :
    Within rel (closeSessions w chosen reason) := by
  refine (h.within Aside.theService).bind fun _ => (h.within (Aside.loopOver _)).bind
    fun keys => Within.forM (fun sessionId => (h.within Aside.theService).bind fun s => ?_) keys
  cases s.sessions.lookup sessionId with
  | none => exact .pure _
  | some session => exact .whenever (h.closes _ _)

/-! ## Running out -/

theorem expireDriverToken (h : Borne w rel) (timestampMs : ℤ) (token : String) :
    Within rel (expireDriverToken w timestampMs token) := by
  refine (h.within Aside.theService).bind fun s => ?_
  cases s.driverTokens.lookup token with
  | none => exact .pure _
  | some found =>
    exact .whenever (.bind (h.update (fun _ => rfl) fun _ => rfl) fun _ =>
      (h.within Aside.theService).bind fun _ => .whenever (.bind (h.update (fun _ => rfl)
      fun _ => rfl) fun _ => (h.closeSessions _ _).bind fun _ => h.within (Aside.audit _)))

theorem expireSession (h : Borne w rel) (timestampMs : ℤ) (sessionId : String) :
    Within rel (expireSession w timestampMs sessionId) := by
  refine (h.within Aside.theService).bind fun s => ?_
  cases s.sessions.lookup sessionId with
  | none => exact .pure _
  | some session =>
    exact .whenever ((h.closes _ _).bind fun _ => h.within (Aside.audit _))

theorem expireVehicle (h : Borne w rel) (timestampMs : ℤ) (vehicleId : String) :
    Within rel (expireVehicle config w timestampMs vehicleId) := by
  refine (h.within Aside.theService).bind fun s => ?_
  cases s.onlineVehicles.lookup vehicleId with
  | none => exact .pure _
  | some presence =>
    exact .whenever (.bind (h.update (fun _ => rfl) fun _ => rfl) fun _ =>
      (h.closeSessions _ _).bind fun _ => h.within (Aside.audit _))

theorem expireDriver (h : Borne w rel) (timestampMs : ℤ) (driverId : String) :
    Within rel (expireDriver config w timestampMs driverId) := by
  refine (h.within Aside.theService).bind fun s => ?_
  cases s.onlineDrivers.lookup driverId with
  | none => exact .pure _
  | some presence =>
    exact .whenever (.bind (h.update (fun _ => rfl) fun _ => rfl) fun _ =>
      (h.closeSessions _ _).bind fun _ => h.within (Aside.audit _))

theorem cleanup (h : Borne w rel) (timestampMs : ℤ) :
    Within rel (cleanupExpiredConnections config w timestampMs) :=
  (h.within Aside.theService).bind fun _ => (h.within (Aside.loopOver _)).bind fun tokens =>
    (Within.forM (h.expireDriverToken timestampMs) tokens).bind fun _ =>
    (h.within Aside.theService).bind fun _ => (h.within (Aside.loopOver _)).bind fun ids =>
    (Within.forM (h.expireSession timestampMs) ids).bind fun _ =>
    (h.within Aside.theService).bind fun _ => (h.within (Aside.loopOver _)).bind fun vehicles =>
    (Within.forM (h.expireVehicle timestampMs) vehicles).bind fun _ =>
    (h.within Aside.theService).bind fun _ => (h.within (Aside.loopOver _)).bind fun drivers =>
    (Within.forM (h.expireDriver timestampMs) drivers).bind fun _ => h.approvals

/-! ## Requests -/

theorem revokeDriver (h : Borne w rel) (body : Json) : Within rel (revokeDriver config w body) :=
  (h.within (Aside.administer _)).bind fun _ => (Within.refuseIf _ _).bind fun _ =>
    .bind (h.update (fun _ => rfl) fun _ => rfl) fun _ => (h.closeSessions _ _).bind fun _ =>
    .bind (h.update (fun _ => rfl) fun _ => rfl) fun _ => (h.within (Aside.audit _)).bind fun _ =>
    .pure _

theorem restoreDriver (h : Borne w rel) (body : Json) :
    Within rel (restoreDriver config w body) :=
  (h.within (Aside.administer _)).bind fun _ => (Within.refuseIf _ _).bind fun _ =>
    .bind (h.update (fun _ => rfl) fun _ => rfl) fun _ => (h.within (Aside.audit _)).bind fun _ =>
    .pure _

theorem revokeVehicle (h : Borne w rel) (body : Json) :
    Within rel (revokeVehicle config w body) :=
  (h.within (Aside.administer _)).bind fun _ => (Within.refuseIf _ _).bind fun _ =>
    .bind (h.update (fun _ => rfl) fun _ => rfl) fun _ => (h.closeSessions _ _).bind fun _ =>
    .bind (h.update (fun _ => rfl) fun _ => rfl) fun _ => (h.within (Aside.audit _)).bind fun _ =>
    .pure _

theorem restoreVehicle (h : Borne w rel) (body : Json) :
    Within rel (restoreVehicle config w body) :=
  (h.within (Aside.administer _)).bind fun _ => (Within.refuseIf _ _).bind fun _ =>
    .bind (h.update (fun _ => rfl) fun _ => rfl) fun _ => (h.within (Aside.audit _)).bind fun _ =>
    .pure _

theorem driverLogin (h : Borne w rel) (body : Json) : Within rel (driverLogin config w body) :=
  (Within.liftResult _).bind fun _ => (Within.liftResult _).bind fun _ =>
    (h.within Aside.nowMs).bind fun _ => (h.within (Aside.enforceLoginRateLimit _ _ _)).bind
    fun _ => (Within.whenever ((h.within (Aside.recordLoginFailure _ _ _)).bind fun _ =>
      .throw _)).bind fun _ => .bind (h.update (fun _ => rfl) fun _ => rfl) fun _ =>
    (h.within Aside.theService).bind fun _ =>
    (Within.whenever ((h.within (Aside.audit _)).bind fun _ => .throw _)).bind fun _ =>
    (h.within Aside.theService).bind fun _ =>
    (Within.whenever ((h.within (Aside.audit _)).bind fun _ => .throw _)).bind fun _ =>
    (h.within Aside.theService).bind fun _ => .bind (h.update (fun _ => rfl) fun _ => rfl) fun _ =>
    (h.within Aside.randomToken).bind fun _ => .bind (h.update (fun _ => rfl) fun _ => rfl) fun _ =>
    (h.within (Aside.audit _)).bind fun _ => .pure _

theorem driverLogout (h : Borne w rel) (body : Json) : Within rel (driverLogout w body) :=
  (Within.liftResult _).bind fun _ => (Within.liftResult _).bind fun _ =>
    (h.within (Aside.validateDriverToken _ _)).bind fun _ => (h.within Aside.theService).bind fun _ =>
    (h.within (Aside.generationAt _ _)).bind fun _ => (h.closeSessions _ _).bind fun _ =>
    .bind (h.update (fun _ => rfl) fun _ => rfl) fun _ => (Within.liftResult _).bind fun _ =>
    (h.within (Aside.audit _)).bind fun _ => .pure _

theorem vehicleOnline (h : Borne w rel) (body : Json) :
    Within rel (vehicleOnline config w body) := by
  refine (Within.liftResult _).bind fun vehicleId => (Within.liftResult _).bind fun _ =>
    (h.within (Aside.validateDeviceToken _ _)).bind fun _ => (Within.liftResult _).bind
    fun connectionId => (h.within Aside.nowMs).bind fun _ =>
    (h.within Aside.theService).bind fun s => ?_
  dsimp only
  cases (s.onlineVehicles.lookup vehicleId).filter fun presence =>
      presence.connectionId = connectionId with
  | some presence => exact .bind (h.update (fun _ => rfl) fun _ => rfl) fun _ => .pure _
  | none =>
    refine .bind ?_ fun _ => (h.within Aside.theService).bind fun _ =>
      .bind (h.update (fun _ => rfl) fun _ => rfl) fun _ => (h.within (Aside.audit _)).bind
      fun _ => .pure _
    cases s.onlineVehicles.lookup vehicleId with
    | none => exact .pure _
    | some presence => exact (h.closeSessions _ _).bind fun _ => h.within (Aside.audit _)

theorem vehicleOffline (h : Borne w rel) (body : Json) :
    Within rel (vehicleOffline config w body) :=
  (Within.liftResult _).bind fun _ => (Within.liftResult _).bind fun _ =>
    (Within.liftResult _).bind fun _ => (h.within (Aside.validateVehicleConnection _ _ _)).bind
    fun _ => .bind (h.update (fun _ => rfl) fun _ => rfl) fun _ =>
    (h.closeSessions _ _).bind fun _ => (Within.liftResult _).bind fun _ =>
    (h.within (Aside.audit _)).bind fun _ => .pure _

theorem closeAuthority (h : Borne w rel) (sessionId : String) (body : Json)
    (byDefault event : String) :
    Within rel (closeAuthority config w sessionId body byDefault event) :=
  (Within.liftResult _).bind fun _ => (h.within (Aside.requireParticipant _ _)).bind fun _ =>
    (h.within (Aside.validateActorCredential _ _ _)).bind fun _ => (Within.liftResult _).bind
    fun _ => (h.closes _ _).bind fun _ => (h.within (Aside.audit _)).bind fun _ =>
    (h.within Aside.theService).bind fun _ => .pure _

end Borne

end MineTeleop.Signaling
