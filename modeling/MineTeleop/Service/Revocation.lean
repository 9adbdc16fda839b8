import MineTeleop.Service.Operations

/-!
# A stop revokes the session

Proved here, for every adapter and every order of operations:

* `stops_revoke_iff`: a command, a tick or a close that stops the vehicle outside `Degraded` ends
  without a session exactly when no such stop throws while it finds the session in force;
* `stops_revoke_fails`: a close that throws leaves the session in force.
-/

namespace MineTeleop.Service

open Programs
open Runs

variable {σ : Type}

/-- The operations that stop the vehicle of themselves. -/
def Event.Stops : Event → Prop
  | .receiveCommand _ _ | .tick _ | .close _ => True
  | _ => False

/-- A stop outside `Degraded`, where a session could survive it. -/
def Observation.HardStop : Observation → Prop
  | .called (.applySafeStop _ _) _ s => s.safety.state ≠ .degraded
  | _ => False

/-- No hard stop throws while it finds the session in force. -/
def Observation.GoesThrough : Observation → Prop
  | .called (.applySafeStop _ _) (.error _) s =>
    s.safety.state ≠ .degraded → s.activeSessionProfile = none
  | _ => True

def StopsRevoke (w : World σ) : Prop :=
  (∃ o ∈ w.trace, o.HardStop) → w.service.activeSessionProfile = none

def StopsGoThrough (trace : List Observation) : Prop := ∀ o ∈ trace, o.GoesThrough

instance : DecidablePred Event.Stops := fun e =>
  match e with
  | .receiveCommand _ _ | .tick _ | .close _ => .isTrue trivial
  | .start _ | .receiveSessionProfile _ _ | .requestVcuHandshake | .disconnectVcuHandshake
  | .resetEstop _ _ _ => .isFalse id

instance : DecidablePred Observation.HardStop := fun o =>
  match o with
  | .called (.applySafeStop _ _) _ s => inferInstanceAs (Decidable (s.safety.state ≠ .degraded))
  | .called .openAdapter _ _ | .called .closeAdapter _ _
  | .called (.configureRuntimeControlProfile _ _) _ _ | .called .clearRuntimeControlProfile _ _
  | .called (.applyControl _) _ _ | .called .pollFeedback _ _ | .called .requestVcuHandshake _ _
  | .called .disconnectVcuHandshake _ _ | .called .feedbackReady _ _
  | .called .vcuHandshakeStatus _ _ | .called .readTelemetry _ _ | .called .status _ _
  | .commandAccepted _ | .safetyChanged _ _ => .isFalse id

instance (w : World σ) : Decidable (StopsRevoke w) := inferInstanceAs (Decidable (_ → _))

/-! ## Moves -/

structure Settled (w : World σ) : Prop where
  revoked : StopsRevoke w
  through : StopsGoThrough w.trace

/-- What is neither a stop nor a session gained keeps the two laws. -/
theorem Settled.cons {w w' : World σ} {o : Observation} (h : Settled w)
    (hsession : w'.service.activeSessionProfile = w.service.activeSessionProfile)
    (htrace : w'.trace = o :: w.trace) (hsoft : ¬o.HardStop) (hthrough : o.GoesThrough) :
    Settled w' := by
  constructor
  · rintro ⟨o', hmem, hhard⟩
    rw [htrace] at hmem
    rw [hsession]
    rcases List.mem_cons.mp hmem with rfl | hmem
    · exact absurd hhard hsoft
    · exact h.revoked ⟨o', hmem, hhard⟩
  · rw [htrace]
    exact List.forall_mem_cons.mpr ⟨hthrough, h.through⟩

theorem Settled.revoke {w : World σ} (h : StopsGoThrough w.trace)
    (hsession : w.service.activeSessionProfile = none) : Settled w :=
  ⟨fun _ => hsession, h⟩

theorem passive_hardStop {c : AdapterCall} (hc : c.Passive) (r : Except Failure c.Result)
    (s : VehicleControlService) :
    ¬(Observation.called c r s).HardStop ∧ (Observation.called c r s).GoesThrough := by
  cases c with
  | applyControl | applySafeStop => cases hc
  | _ => exact ⟨id, trivial⟩

theorem goesThrough_of_session {output : ControlOutput} {context : Bridge.StopContext}
    {r : Except Failure Unit} {s : VehicleControlService}
    (h : s.safety.state ≠ .degraded → r = .ok () ∨ s.activeSessionProfile = none) :
    (Observation.called (.applySafeStop output context) r s).GoesThrough := by
  cases r with
  | ok => trivial
  | error failure => exact fun hstate => (h hstate).resolve_left (by simp)

section
variable {adapter : VehicleAdapter σ} {start : VehicleControlService} {e : Event} {w w' : World σ}

theorem move_settled (he : e.Stops) (hmove : Move adapter start e w w') (h : Settled w) :
    Settled w' := by
  cases hmove with
  | asks c hc =>
    obtain ⟨hsoft, hthrough⟩ := passive_hardStop hc (adapter.answer c w.adapter).1 w.service
    exact h.cons rfl rfl hsoft hthrough
  | books | starts | closes => exact ⟨h.revoked, h.through⟩
  | revokes => exact .revoke (List.forall_mem_cons.mpr ⟨trivial, h.through⟩) rfl
  | stops output context houtput hsession =>
    rcases hsession with hnone | hdegraded | ⟨request, t, rfl⟩
    · refine .revoke (List.forall_mem_cons.mpr ⟨?_, h.through⟩) hnone
      exact goesThrough_of_session fun _ => .inr hnone
    · exact h.cons rfl rfl (fun hhard => hhard hdegraded)
        (goesThrough_of_session fun hhard => absurd hdegraded hhard)
    · exact he.elim
  | stopsFirst output context houtput hok =>
    refine .revoke (List.forall_mem_cons.mpr ⟨trivial, ?_⟩) rfl
    exact List.forall_mem_cons.mpr ⟨goesThrough_of_session fun _ => .inl hok, h.through⟩
  | configures | reapplies | adopts | readies | stands | zeroes | releases => exact he.elim
  | ticks | faults | latches | activates => exact h.cons rfl rfl id trivial
  | accepts =>
    split
    · exact h.cons rfl rfl id trivial
    · exact ⟨h.revoked, h.through⟩
  | controls hguard => exact h.cons rfl rfl id trivial

end

/-- A stop that throws leaves the session as it found it. -/
theorem respond_stops_revoke_iff (adapter : VehicleAdapter σ) (w : World σ) {e : Event}
    (he : e.Stops) :
    StopsRevoke (respond adapter w e).2 ↔ StopsGoThrough (respond adapter w e).2.trace := by
  have hinit : Settled { w with trace := [] } := by
    constructor
    · rintro ⟨o, hmem, -⟩
      cases hmem
    · intro o hmem
      cases hmem
  obtain hmoves | ⟨w₁, output, context, failure, hmoves, -, herror, hlast⟩ :=
    respond_ended adapter w e
  · have hsettled := hmoves.keeps (fun _ _ => move_settled he) hinit
    exact iff_of_true hsettled.revoked hsettled.through
  · have hsettled := hmoves.keeps (fun _ _ => move_settled he) hinit
    have htrace := World.trace_after herror
    rw [hlast, StopsRevoke, htrace]
    constructor
    · intro hrevoke
      refine List.forall_mem_cons.mpr ⟨fun hstate => ?_, hsettled.through⟩
      exact hrevoke ⟨_, List.mem_cons_self .., hstate⟩
    · rintro hthrough ⟨o, hmem, hhard⟩
      rcases List.mem_cons.mp hmem with rfl | hmem
      · exact (List.forall_mem_cons.mp hthrough).1 hhard
      · exact hsettled.revoked ⟨o, hmem, hhard⟩

/-- The commands, ticks and closes of a run all revoke with their stops exactly when none of their
stops outside `Degraded` throws while it finds the session in force. -/
theorem stops_revoke_iff (adapter : VehicleAdapter σ) (built : World σ)
    {h : History (World σ) Event Reply} {w : World σ} (hrun : Run (machine adapter built) h w) :
    Steps (fun st => st.event.Stops → StopsRevoke st.after) h ↔
      Steps (fun st => st.event.Stops → StopsGoThrough st.after.trace) h :=
  hrun.always_iff fun _ w _ _ _ =>
    forall_congr' fun he => respond_stops_revoke_iff adapter w he

/-- The mock adapter with a brake that does not answer. -/
def stuckBrake : VehicleAdapter MockVehicleAdapter where
  answer
    | .applySafeStop _ _, m => (.error (.runtimeError "safe stop failed"), m)
    | c, m => mock.answer c m

def closeRun : List Event :=
  [.start 0, .receiveSessionProfile (benchRequest 1 10 benchProfile) 10,
    .close ⟨.session, .sessionLost⟩]

theorem stops_revoke_fails :
    ∃ h w, Run (machine stuckBrake ⟨benchService, {}, []⟩) h w ∧
      (∃ o ∈ w.trace, o.HardStop) ∧ w.service.activeSessionProfile ≠ none ∧
      ¬Steps (fun st => st.event.Stops → StopsRevoke st.after) h := by
  refine ⟨_, _, Run.play _ closeRun, ?_, ?_, ?_⟩
  all_goals decide +kernel

theorem stops_revoke_iff_closeRun :
    (∃ o ∈ ((machine mock ⟨benchService, {}, []⟩).play closeRun).2.trace, o.HardStop) ∧
      Steps (fun st => st.event.Stops → StopsGoThrough st.after.trace)
        ((machine mock ⟨benchService, {}, []⟩).play closeRun).1 := by
  have hrun := Run.play (machine mock ⟨benchService, {}, []⟩) closeRun
  exact ⟨by decide +kernel, (stops_revoke_iff mock _ hrun).mp (by decide +kernel)⟩

end MineTeleop.Service
