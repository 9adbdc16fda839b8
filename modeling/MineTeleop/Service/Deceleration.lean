import MineTeleop.Library.Schedule
import MineTeleop.Service.Safety
import Mathlib.Tactic.Linarith

/-!
# Deceleration profiles

Proved here:

* `normalizeAndValidateDecelerationProfile_ok`: an accepted profile starts at once, its delays
  and brakes rise, and it ends with the full brake;
* `profileBrake_mono`, `profileBrake_zero`, `profileBrake_last`: the brake it gives rises from
  that of its first stage to the full one.
-/

namespace MineTeleop.Service

open Bridge (Double)

/-! ## Accepted profiles -/

/-- What a deceleration profile has passed. -/
structure ProfileValid (profile : List DecelerationStage) : Prop where
  startsAtOnce : (profile.head?.map DecelerationStage.afterMs) = some 0
  rises : profile.Pairwise fun a b => a.afterMs < b.afterMs ∧ a.brake ≤ b.brake
  brake_nonneg : ∀ stage ∈ profile, 0 ≤ stage.brake
  endsInFull : ∀ last ∈ profile.getLast?, last.brake = 1

theorem normalizeStages_ok {profile : List (ℤ × Double)} :
    ∀ {previousBrake : ℚ} {previousAfterMs : ℤ} {stages : List DecelerationStage},
      -1 ≤ previousAfterMs →
      normalizeStages previousBrake previousAfterMs profile = .ok stages →
      stages.map DecelerationStage.afterMs = profile.map Prod.fst ∧
      (∀ stage ∈ stages, previousAfterMs < stage.afterMs ∧ previousBrake ≤ stage.brake) ∧
      stages.Pairwise fun a b => a.afterMs < b.afterMs ∧ a.brake ≤ b.brake := by
  induction profile with
  | nil =>
    intro previousBrake previousAfterMs stages _ h
    obtain rfl : [] = stages := Except.ok.inj h
    simp
  | cons first rest ih =>
    intro previousBrake previousAfterMs stages hprevious h
    obtain ⟨afterMs, rawBrake⟩ := first
    obtain ⟨_, hafter, h⟩ := bind_ok h
    obtain ⟨_, hincreasing, h⟩ := bind_ok h
    obtain ⟨brake, -, h⟩ := bind_ok h
    obtain ⟨-, -, h⟩ := bind_ok h
    obtain ⟨tail, htail, h⟩ := bind_ok h
    obtain rfl := Except.ok.inj h
    have hnonneg := check_ok hafter
    have hlater : previousAfterMs < afterMs := by
      have := check_ok hincreasing
      omega
    obtain ⟨htimes, hall, hpairs⟩ := ih (by omega) htail
    have hbrake : previousBrake ≤ if brake < previousBrake then previousBrake else brake := by
      split <;> linarith
    refine ⟨by simp [htimes], ?_, ?_⟩
    · intro stage hstage
      rcases List.mem_cons.mp hstage with rfl | hstage
      · exact ⟨hlater, hbrake⟩
      · obtain ⟨htime, hstep⟩ := hall stage hstage
        exact ⟨by omega, hbrake.trans hstep⟩
    · exact List.pairwise_cons.mpr ⟨hall, hpairs⟩

/-- Setting the last brake to one keeps what the stages before it are. -/
theorem finishStages_ok {stages profile : List DecelerationStage} (hne : stages ≠ [])
    (hrises : stages.Pairwise fun a b => a.afterMs < b.afterMs ∧ a.brake ≤ b.brake)
    (hle : ∀ stage ∈ stages, stage.brake ≤ 1) (h : finishStages stages = .ok profile) :
    profile = stages.dropLast ++ [{ stages.getLast hne with brake := 1 }] ∧
      profile.Pairwise fun a b => a.afterMs < b.afterMs ∧ a.brake ≤ b.brake := by
  unfold finishStages at h
  rw [List.getLast?_eq_some_getLast hne] at h
  simp only at h
  split at h
  · cases h
  · obtain rfl := Except.ok.inj h
    refine ⟨rfl, ?_⟩
    rw [← List.dropLast_append_getLast hne] at hrises
    obtain ⟨hinit, -, hlast⟩ := List.pairwise_append.mp hrises
    refine List.pairwise_append.mpr ⟨hinit, List.pairwise_singleton _ _, ?_⟩
    intro stage hstage last hmem
    obtain rfl := List.mem_singleton.mp hmem
    have hmem := List.mem_of_mem_dropLast hstage
    exact ⟨(hlast stage hstage _ (List.mem_singleton_self _)).1, hle stage hmem⟩

theorem normalizeStages_le_one {profile : List (ℤ × Double)} :
    ∀ {previousBrake : ℚ} {previousAfterMs : ℤ} {stages : List DecelerationStage},
      previousBrake ≤ 1 → normalizeStages previousBrake previousAfterMs profile = .ok stages →
      ∀ stage ∈ stages, stage.brake ≤ 1 := by
  induction profile with
  | nil =>
    intro previousBrake previousAfterMs stages _ h
    obtain rfl : [] = stages := Except.ok.inj h
    simp
  | cons first rest ih =>
    intro previousBrake previousAfterMs stages hprevious h
    obtain ⟨afterMs, rawBrake⟩ := first
    obtain ⟨-, -, h⟩ := bind_ok h
    obtain ⟨-, -, h⟩ := bind_ok h
    obtain ⟨brake, hrange, h⟩ := bind_ok h
    obtain ⟨-, -, h⟩ := bind_ok h
    obtain ⟨tail, htail, h⟩ := bind_ok h
    obtain rfl := Except.ok.inj h
    obtain ⟨-, -, hbrake⟩ := requireFiniteRange_ok hrange
    have hle : (if brake < previousBrake then previousBrake else brake) ≤ 1 := by
      split
      · exact hprevious
      · exact hbrake
    intro stage hstage
    rcases List.mem_cons.mp hstage with rfl | hstage
    · exact hle
    · exact ih hle htail stage hstage

/-- An accepted profile has the delays that were given. -/
theorem normalizeAndValidateDecelerationProfile_afterMs {profile : List (ℤ × Double)}
    {stages : List DecelerationStage}
    (h : normalizeAndValidateDecelerationProfile profile = .ok stages) :
    stages.map DecelerationStage.afterMs = profile.map Prod.fst := by
  obtain ⟨_, hne, h⟩ := bind_ok h
  obtain ⟨_, -, h⟩ := bind_ok h
  obtain ⟨normalized, hnormalized, h⟩ := bind_ok h
  obtain ⟨htimes, -, hrises⟩ := normalizeStages_ok (by omega) hnormalized
  have hle := normalizeStages_le_one (by norm_num) hnormalized
  have hnormalized_ne : normalized ≠ [] := by
    rintro rfl
    exact check_ok hne (List.map_eq_nil_iff.mp htimes.symm)
  obtain ⟨hstages, -⟩ := finishStages_ok hnormalized_ne hrises hle h
  rw [← htimes, hstages]
  conv_rhs => rw [← List.dropLast_append_getLast hnormalized_ne]
  simp

theorem normalizeAndValidateDecelerationProfile_ok {profile : List (ℤ × Double)}
    {stages : List DecelerationStage}
    (h : normalizeAndValidateDecelerationProfile profile = .ok stages) : ProfileValid stages := by
  have hmap := normalizeAndValidateDecelerationProfile_afterMs h
  obtain ⟨_, hne, h⟩ := bind_ok h
  obtain ⟨_, hstart, h⟩ := bind_ok h
  obtain ⟨normalized, hnormalized, h⟩ := bind_ok h
  obtain ⟨htimes, hall, hrises⟩ := normalizeStages_ok (by omega) hnormalized
  have hle := normalizeStages_le_one (by norm_num) hnormalized
  have hnormalized_ne : normalized ≠ [] := by
    rintro rfl
    exact check_ok hne (List.map_eq_nil_iff.mp htimes.symm)
  obtain ⟨hstages, hpairs⟩ := finishStages_ok hnormalized_ne hrises hle h
  refine ⟨?_, hpairs, ?_, ?_⟩
  · have hzero := check_ok hstart
    have hhead : stages.head?.map DecelerationStage.afterMs = profile.head?.map Prod.fst := by
      rw [← List.head?_map, ← List.head?_map, hmap]
    rw [hhead]
    cases profile with
    | nil => exact absurd rfl (check_ok hne)
    | cons first rest => simpa using hzero
  · intro stage hstage
    rw [hstages] at hstage
    rcases List.mem_append.mp hstage with hstage | hstage
    · exact (hall stage (List.mem_of_mem_dropLast hstage)).2
    · obtain rfl := List.mem_singleton.mp hstage
      norm_num
  · intro last hlast
    rw [hstages, List.getLast?_concat, Option.mem_some_iff] at hlast
    rw [← hlast]

/-! ## The brake in force -/

/-- The loop of `brake_for_timeout`. -/
def profileBrake (profile : List DecelerationStage) (elapsed : ℤ) : ℚ :=
  Schedules.inForce DecelerationStage.afterMs DecelerationStage.brake profile 0 elapsed

/-- How many delays have passed: the number of the stage in force, from one. -/
def passedStages (profile : List DecelerationStage) (elapsed : ℤ) : ℕ :=
  Schedules.passed DecelerationStage.afterMs profile elapsed

theorem SafetyStateMachine.brakeForTimeout_eq (m : SafetyStateMachine) (t : ℤ) :
    m.brakeForTimeout t = profileBrake m.profile (t - m.timeoutEnteredMs.getD t) := rfl

variable {profile : List DecelerationStage}

theorem profileBrake_mono (hvalid : ProfileValid profile) {a b : ℤ} (h : a ≤ b) :
    profileBrake profile a ≤ profileBrake profile b :=
  Schedules.inForce_mono hvalid.rises hvalid.brake_nonneg h

theorem ProfileValid.ne_nil (hvalid : ProfileValid profile) : profile ≠ [] := by
  rintro rfl
  simpa using hvalid.startsAtOnce

/-- When `TimeoutBrake` begins, the first stage brakes. -/
theorem profileBrake_zero (hvalid : ProfileValid profile) :
    profileBrake profile 0 = (profile.head hvalid.ne_nil).brake := by
  have hstart := hvalid.startsAtOnce
  have hrises := hvalid.rises.imp And.left
  cases profile with
  | nil => exact absurd hstart (by simp)
  | cons first rest =>
    have hfirst : first.afterMs = 0 := by simpa using hstart
    rw [profileBrake, ← hfirst]
    exact Schedules.inForce_first hrises 0

/-- Behind the last delay the brake is full. -/
theorem profileBrake_last (hvalid : ProfileValid profile) {elapsed : ℤ}
    (h : (profile.getLast hvalid.ne_nil).afterMs ≤ elapsed) : profileBrake profile elapsed = 1 := by
  rw [← hvalid.endsInFull _ (List.getLast?_eq_some_getLast hvalid.ne_nil)]
  exact Schedules.inForce_last hvalid.ne_nil (hvalid.rises.imp And.left) 0 h

end MineTeleop.Service
