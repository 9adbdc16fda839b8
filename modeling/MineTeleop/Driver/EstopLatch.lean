import MineTeleop.Driver.Intent

/-!
# The ESTOP of the driver sticks

Once the store has accepted an intent with ESTOP, only `reset` lets go of it: `estopLatch_runs`
says so of every run, whatever is updated, refused, invalidated and sampled in between.
-/

namespace MineTeleop.Driver

open Runs
open Service (bind_ok)

/-- The step accepts an intent that asks for ESTOP. -/
def AcceptsEstop (st : IntentStep) : Prop :=
  ∃ intent t, st.event = .update intent t ∧ intent.estop = true ∧ Accepts st

def Resets (st : IntentStep) : Prop := st.event = .reset

/-- A sample at a time that the store takes has ESTOP, and neither steers, drives nor brakes. -/
def Stopped (st : IntentStep) : Prop :=
  ∀ t, st.event = .sample t →
    (t < 0 ∧ ∃ e, st.output = .threw e) ∨
    ∃ sample, st.output = .sampled (some sample) ∧ sample.intent.estop = true ∧
      sample.intent.Still

def EstopLatchLaw (st : IntentStep) (past : IntentHistory) : Prop :=
  Since (fun st => ¬Resets st) AcceptsEstop past → Stopped st

/-- The latch, with the intent it holds. -/
structure Latched (s : NativeControlIntentStore) : Prop where
  latched : s.estopLatched = true
  held : ∃ held ∈ s.latest, held.estop = true ∧ held.Still

section
variable {leaseMs : ℤ} {lease : 100 ≤ leaseMs ∧ leaseMs ≤ 1000} {s : NativeControlIntentStore}

theorem validate_estop {intent : NativeControlIntent} {i : CheckedIntent}
    (h : intent.validate = .ok i) : i.estop = intent.estop := by
  unfold NativeControlIntent.validate at h
  obtain ⟨-, -, h⟩ := bind_ok h
  obtain ⟨-, -, h⟩ := bind_ok h
  cases hgear : Service.Gear.ofString? intent.gear with
  | none =>
    rw [hgear] at h
    cases h
  | some gear =>
    rw [hgear] at h
    obtain ⟨steering, -, h⟩ := bind_ok h
    obtain ⟨throttle, -, h⟩ := bind_ok h
    obtain ⟨brake, -, h⟩ := bind_ok h
    cases h
    rfl

/-- Whatever is stored under the latch, or with ESTOP itself, is a still ESTOP. -/
theorem normalized_latched {i : CheckedIntent} (h : s.estopLatched = true ∨ i.estop = true) :
    (s.normalized i).estop = true ∧ (s.normalized i).Still := by
  refine ⟨?_, normalized_still h⟩
  unfold NativeControlIntentStore.normalized
  rw [if_pos h]

theorem latched_set {e : Event} (h : AcceptsEstop ((machine leaseMs lease).observe s e)) :
    Latched (respond s e).2 := by
  obtain ⟨intent, t, heq, hestop, result, houtput, haccepted⟩ := h
  cases heq
  rcases update_updated s intent t with ⟨e, hupdate, -⟩ | ⟨i, r, hvalid, -, hupdated, hupdate⟩
  · have hafter : respond s (.update intent t) = (.threw e, s) := by rw [respond, hupdate]
    cases (congrArg Prod.fst hafter).symm.trans houtput
  · have hafter := respond_update hupdate
    cases hupdated with
    | refused result' hrefused =>
      cases (congrArg Prod.fst hafter).symm.trans houtput
      exact absurd (hrefused.symm.trans haccepted) Bool.false_ne_true
    | accepted result' _ _ _ =>
      have hnormal := normalized_latched (s := s) (.inr ((validate_estop hvalid).trans hestop))
      rw [hafter]
      exact ⟨Bool.or_eq_true_iff.mpr (.inr hnormal.1), _, rfl, hnormal⟩

theorem latched_kept {e : Event} (h : Latched s) (hreset : e ≠ .reset) :
    Latched (respond s e).2 := by
  cases e with
  | update intent t =>
    rcases update_updated s intent t with ⟨e, hupdate, -⟩ | ⟨i, r, -, -, hupdated, hupdate⟩
    · have hafter : respond s (.update intent t) = (.threw e, s) := by rw [respond, hupdate]
      rw [hafter]
      exact h
    · rw [respond_update hupdate]
      cases hupdated with
      | refused result _ => exact ⟨h.latched, h.held⟩
      | accepted result _ _ _ =>
        exact ⟨Bool.or_eq_true_iff.mpr (.inl h.latched), _, rfl, normalized_latched (.inl h.latched)⟩
  | sample t =>
    rcases sample_sampled s t with (⟨⟨e, hsample⟩, -⟩ | ⟨hsample, -⟩) |
      ⟨held, sample, -, -, -, hsample⟩
    · rw [respond, hsample]
      exact h
    · rw [respond, hsample]
      exact h
    · rw [respond, hsample]
      exact ⟨h.latched, h.held⟩
  | invalidate => exact ⟨h.latched, h.held⟩
  | reset => exact absurd rfl hreset

theorem stopped_of_latched {e : Event} (h : Latched s) :
    Stopped ((machine leaseMs lease).observe s e) := by
  rintro t heq
  cases heq
  obtain ⟨held, hheld, hestop, hstill⟩ := h.held
  rcases sample_sampled s t with (⟨⟨e, hsample⟩, ht⟩ | ⟨-, hlatest⟩) |
    ⟨held', sample, -, hlatest, hsampled, hsample⟩
  · have hafter : respond s (.sample t) = (.threw e, s) := by rw [respond, hsample]
    exact .inl ⟨ht, e, congrArg Prod.fst hafter⟩
  · rw [hlatest] at hheld
    exact absurd hheld (Option.not_mem_none held)
  · obtain rfl := Option.some.inj (hlatest.symm.trans hheld)
    have hafter : respond s (.sample t) = (.sampled (some sample),
        { s with requiresFreshInput := sample.requiresFreshInput }) := by rw [respond, hsample]
    refine .inr ⟨sample, congrArg Prod.fst hafter, hsampled.estop.trans h.latched, ?_⟩
    -- The held intent is an ESTOP, so a sample does not rewrite it.
    rw [hsampled.intent, if_neg (by rw [hestop]; simp)]
    exact hstill

end

/-- From an accepted ESTOP on, and until `reset`, every sample is a still ESTOP. -/
theorem estopLatch_runs {leaseMs : ℤ} {lease : 100 ≤ leaseMs ∧ leaseMs ≤ 1000} {h : IntentHistory}
    {s : NativeControlIntentStore} (hr : Run (machine leaseMs lease) h s) :
    Always EstopLatchLaw h := by
  refine hr.always_of_link (C := fun _ => True)
    (R := fun past s => Since (fun st => ¬Resets st) AcceptsEstop past → Latched s)
    (fun hsince => hsince.elim) ?_ (fun _ _ _ _ hi _ hsince => stopped_of_latched (hi hsince))
    (steps_true h)
  rintro past s e - hi - (hset | ⟨hkept, hsince⟩)
  · exact latched_set hset
  · exact latched_kept (hi hsince) hkept

/-- ESTOP from one user interface, and a drive from another behind it. -/
def estopEvents : List Event :=
  armedEvents ++
    [.update { benchIntent 3 (6 / 10) with estop := true } 120,
      .update { benchIntent 1 0 with uiInstanceId := "ui-2" } 130,
      .update { benchIntent 2 1 with uiInstanceId := "ui-2" } 140, .invalidate, .sample 900]

theorem estopLatch_runs_taken_over :
    Run benchMachine (benchMachine.play estopEvents).1 (benchMachine.play estopEvents).2 ∧
    (benchMachine.play estopEvents).1.head?.map (·.output) =
      some (.sampled (some ⟨false, true, ⟨"ui-2", 2, .D, 0, 0, 0, true⟩⟩)) ∧
    Always EstopLatchLaw (benchMachine.play estopEvents).1 :=
  ⟨Run.play benchMachine estopEvents, by decide +kernel,
    estopLatch_runs (Run.play benchMachine estopEvents)⟩

end MineTeleop.Driver
