import MineTeleop.Signaling.Steps

/-!
# What every turn is made of

Requests and the turns of a connection share the cleanup before them, the mailboxes and what is done
aside.  A relation between the calls before and after that these carry is carried by every turn of a
connection.

Proved here, for every such relation:

* `Kept.prepare`, `Kept.admission`: what is done before a request or an upgrade keeps it;
* `Carried.pending`, `Carried.receive`: the turns of a connection carry it;
* `Carried.step`: so does every step of the machine that is no request.
-/

namespace MineTeleop.Signaling

open Documents Programs Tables

/-- The relation is kept by what stands before every request and turn. -/
structure Kept (config : SignalingServerConfig) (w : Circumstances)
    (rel : Call → Call → Prop) : Prop where
  aside : ∀ c c', Aside c c' → rel c c'
  cleanup : ∀ timestampMs, Within rel (cleanupExpiredConnections config w timestampMs)
  approvals : Within rel (cleanupMobileApprovals w)

/-- The relation is carried by all that the turns are made of. -/
structure Carried (config : SignalingServerConfig) (w : Circumstances)
    (rel : Call → Call → Prop) : Prop extends Kept config w rel where
  takes : ∀ sessionId recipient requested consume,
    Within rel (takeSignalingMessages config w sessionId recipient requested consume)
  acknowledges : ∀ sessionId recipient deliveryCursor controlOnly,
    Within rel (acknowledgeSignalingMessages sessionId recipient deliveryCursor controlOnly)
  enqueues : ∀ sessionId value actor,
    Within rel (enqueueSignalingMessage config w sessionId value actor)

namespace Kept

variable {config : SignalingServerConfig} {w : Circumstances} {rel : Call → Call → Prop}
  [Std.Refl rel] [IsTrans Call rel]

omit [Std.Refl rel] [IsTrans Call rel] in
theorem within {α : Type} {p : Handler α} (h : Kept config w rel) (hp : Within Aside p) :
    Within rel p :=
  hp.mono h.aside

theorem prepare (h : Kept config w rel) (request : Request) :
    Within rel (request.prepare config w) := by
  have hcleanup : Within rel (nowMs w >>= cleanupExpiredConnections config w) :=
    (h.within Aside.nowMs).bind h.cleanup
  cases request with
  | sessionLogs => exact .pure _
  | mobileLogin | mobileLogout | mobileRequests | mobileDecision =>
    exact (h.within Aside.nowMs).bind fun _ => (h.cleanup _).bind fun _ => h.approvals
  | _ => exact hcleanup

theorem sessionLogs (h : Kept config w rel) (driverId token : String) (start : Bool) :
    Within rel (sessionLogs config w driverId token start) :=
  (h.within (Aside.validateDriverToken driverId token)).bind fun _ =>
    (Within.whenever ((h.within Aside.nowMs).bind h.cleanup)).bind fun _ => .pure _

theorem authenticate (h : Kept config w rel) (connection : Connection) :
    Within rel (connection.authenticate config w) :=
  (h.within Aside.nowMs).bind fun _ => (h.cleanup _).bind fun _ =>
    (h.within (Aside.requireParticipant _ _)).bind fun _ =>
    (h.within (Aside.validateActorCredential _ _ _)).bind fun _ => .pure _

theorem admission (h : Kept config w rel) (connection : Connection) :
    Within rel (connection.admission config w) :=
  (Within.refuseIf _ _).bind fun _ => (Within.refuseIf _ _).bind fun _ =>
    (h.authenticate connection).bind fun _ => (Within.refuseIf _ _).bind fun _ =>
    (Within.refuseIf _ _).bind fun _ => .pure _

end Kept

namespace Carried

variable {config : SignalingServerConfig} {w : Circumstances} {rel : Call → Call → Prop}
  [Std.Refl rel] [IsTrans Call rel]

theorem pollMessages (h : Carried config w rel) (sessionId recipient types : String)
    (credentials : Json) :
    Within rel (pollMessages config w sessionId recipient types credentials) :=
  (Within.refuseIf _ _).bind fun _ => (h.within (Aside.requireParticipant _ _)).bind fun _ =>
    (h.within (Aside.validateActorCredential _ _ _)).bind fun _ =>
    (h.takes _ _ _ _).bind fun _ => .pure _

/-! ## Turns of a connection -/

theorem pending (h : Carried config w rel) (connection : Connection) :
    Within rel (connection.pending config w) := by
  refine (h.authenticate connection).bind fun _ => .ite (.pure _)
    ((h.takes _ _ _ _).bind fun messages => ?_)
  cases messages.getLast? with
  | none => exact .pure _
  | some last => exact (h.within Aside.steadyNow).bind fun _ => .ite (.pure _) (.pure _)

theorem receiveAck (h : Carried config w rel) (connection : Connection) (message : Json) :
    Within rel (connection.receiveAck config w message) :=
  (Within.liftResult _).bind fun _ => (Within.liftResult _).bind fun _ =>
    (Within.refuseIf _ _).bind fun _ => (Within.liftResult _).bind fun _ =>
    (Within.liftResult _).bind fun _ => (Within.refuseIf _ _).bind fun _ =>
    (h.authenticate connection).bind fun _ => (h.acknowledges _ _ _ _).bind fun _ => .pure _

theorem receivePost (h : Carried config w rel) (connection : Connection) (message : Json) :
    Within rel (connection.receivePost config w message) :=
  (Within.refuseIf _ _).bind fun _ => (h.authenticate connection).bind fun _ =>
    (Within.liftResult _).bind fun _ => (Within.refuseIf _ _).bind fun _ =>
    (h.enqueues _ _ _).bind fun _ => .pure _

theorem receive (h : Carried config w rel) (connection : Connection) (message : Json) :
    Within rel (connection.receive config w message) :=
  .ite (h.receivePost connection message) ((Within.liftResult _).bind fun _ =>
    .ite (h.receiveAck connection message) (h.receivePost connection message))

/-! ## Steps -/

/-- Some call that begins with one service and ends with the other is in the relation. -/
def Spans (rel : Call → Call → Prop) (before after : SignalingService) : Prop :=
  ∃ c', rel (.start before) c' ∧ c'.service = after

omit [Std.Refl rel] [IsTrans Call rel] in
theorem spans_of_exec {α : Type} {p : Handler α} (hp : Within rel p)
    (service : SignalingService) : Spans rel service (p.exec (.start service)).2.service :=
  ⟨_, ensures_state.mp (hp (.start service)), rfl⟩

theorem step (h : Carried config w rel) (station : Station) {action : Action}
    (haction : ∀ request, action ≠ .request request) :
    Spans rel station.service (station.step config (w, action)).2.service := by
  have hidle : Spans rel station.service station.service :=
    ⟨.start station.service, refl_of rel _, rfl⟩
  cases action with
  | request request => exact absurd rfl (haction request)
  | reap =>
    exact spans_of_exec (p := nowMs w >>= cleanupExpiredConnections config w)
      ((h.within Aside.nowMs).bind h.cleanup) _
  | connect id sessionId participant credentials sendOnly controlReceiveOnly =>
    exact spans_of_exec (h.admission _) _
  | turn id sendFails =>
    unfold Station.step
    dsimp only
    cases station.connections.lookup id with
    | none => exact hidle
    | some connection =>
      have hpending := spans_of_exec (h.pending connection) station.service
      dsimp only
      split
      · exact hpending
      · split <;> exact hpending
  | receive id message =>
    unfold Station.step
    dsimp only
    cases station.connections.lookup id with
    | none => exact hidle
    | some connection => exact spans_of_exec (h.receive connection message) _
  | disconnect id => exact hidle

end Carried

end MineTeleop.Signaling
