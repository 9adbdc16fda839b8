import Mathlib.Data.List.Basic
import Mathlib.Data.List.GetD
import Mathlib.Order.Lattice

/-!
# Schedules of stages

A schedule is a list of stages, each with a delay from which on it holds and a value.  Its value
at a time is that of the last stage whose delay has passed, as a loop over the stages finds it.

Proved here, for delays and values in any orders:

* `inForce_eq_getD`: with rising delays the loop is an index into the values, at the number of
  passed delays;
* `passed_le_iff`: at one time no more delays have passed than at another exactly when every
  delay passed at the first has passed at the second;
* `inForce_mono`: with rising values the value in force rises with the time;
* `inForce_first`, `inForce_last`: it starts with the first value and ends with the last.
-/

namespace MineTeleop.Schedules

variable {ι α β : Type*} [LinearOrder α] (delay : ι → α) (value : ι → β)

/-- The value in force, `chosen` while no delay has passed. -/
def inForce (schedule : List ι) (chosen : β) (time : α) : β :=
  schedule.foldl (fun chosen stage => if delay stage ≤ time then value stage else chosen) chosen

/-- How many delays have passed: the number of the stage in force, from one. -/
def passed (schedule : List ι) (time : α) : ℕ :=
  schedule.countP fun stage => decide (delay stage ≤ time)

variable {delay value}

theorem passed_eq_zero {schedule : List ι} {time : α} (h : ∀ stage ∈ schedule, time < delay stage) :
    passed delay schedule time = 0 := by
  refine List.countP_eq_zero.mpr fun stage hstage => ?_
  simpa using h stage hstage

theorem passed_eq_length {schedule : List ι} {time : α}
    (h : ∀ stage ∈ schedule, delay stage ≤ time) :
    passed delay schedule time = schedule.length := by
  refine List.countP_eq_length.mpr fun stage hstage => ?_
  simpa using h stage hstage

theorem passed_cons_of_le {stage : ι} {rest : List ι} {time : α} (h : delay stage ≤ time) :
    passed delay (stage :: rest) time = passed delay rest time + 1 :=
  List.countP_cons_of_pos (by simpa using h)

theorem passed_cons_of_lt {stage : ι} {rest : List ι} {time : α} (h : time < delay stage) :
    passed delay (stage :: rest) time = passed delay rest time :=
  List.countP_cons_of_neg (by simpa using h)

theorem passed_mono (schedule : List ι) {a b : α} (h : a ≤ b) :
    passed delay schedule a ≤ passed delay schedule b := by
  refine List.countP_mono_left fun stage _ hpassed => ?_
  rw [decide_eq_true_eq] at hpassed ⊢
  exact hpassed.trans h

/-- Fewer delays have passed only when some delay lies between. -/
theorem passed_le_iff (schedule : List ι) (a b : α) :
    passed delay schedule a ≤ passed delay schedule b ↔
      ∀ stage ∈ schedule, delay stage ≤ a → delay stage ≤ b := by
  rcases le_total a b with hab | hba
  · exact ⟨fun _ stage _ h => h.trans hab, fun _ => passed_mono schedule hab⟩
  · induction schedule with
    | nil => simp [passed]
    | cons stage rest ih =>
      have hrest : passed delay rest b ≤ passed delay rest a := passed_mono rest hba
      rw [List.forall_mem_cons]
      rcases le_or_gt (delay stage) a with ha | ha
      · rw [passed_cons_of_le ha]
        rcases le_or_gt (delay stage) b with hb | hb
        · rw [passed_cons_of_le hb, Nat.add_le_add_iff_right, ih]
          exact ⟨fun h => ⟨fun _ => hb, h⟩, And.right⟩
        · rw [passed_cons_of_lt hb]
          constructor
          · intro h
            omega
          · rintro ⟨h, -⟩
            exact absurd (h ha) (not_le.mpr hb)
      · have hb : b < delay stage := hba.trans_lt ha
        rw [passed_cons_of_lt ha, passed_cons_of_lt hb, ih]
        exact ⟨fun h => ⟨fun h' => absurd h' (not_le.mpr ha), h⟩, And.right⟩

/-- The loop is an index into the values. -/
theorem inForce_eq_getD {schedule : List ι} (time : α)
    (h : schedule.Pairwise fun a b => delay a < delay b) (chosen fallback : β) :
    inForce delay value schedule chosen time =
      (chosen :: schedule.map value).getD (passed delay schedule time) fallback := by
  induction schedule generalizing chosen with
  | nil => rfl
  | cons stage rest ih =>
    obtain ⟨hlater, hrest⟩ := List.pairwise_cons.mp h
    rw [inForce, List.foldl_cons]
    refine (ih hrest _).trans ?_
    rcases le_or_gt (delay stage) time with hpassed | hpassed
    · rw [if_pos hpassed, passed_cons_of_le hpassed]
      rfl
    · have hnone : passed delay rest time = 0 :=
        passed_eq_zero fun later hmem => hpassed.trans (hlater later hmem)
      rw [if_neg (not_le.mpr hpassed), passed_cons_of_lt hpassed, hnone]
      rfl

theorem inForce_mono [Preorder β] {schedule : List ι} {chosen : β}
    (h : schedule.Pairwise fun a b => delay a < delay b ∧ value a ≤ value b)
    (hchosen : ∀ stage ∈ schedule, chosen ≤ value stage) {a b : α} (hab : a ≤ b) :
    inForce delay value schedule chosen a ≤ inForce delay value schedule chosen b := by
  have hsorted : (chosen :: schedule.map value).Pairwise (· ≤ ·) := by
    refine List.pairwise_cons.mpr ⟨?_, List.pairwise_map.mpr (h.imp And.right)⟩
    intro v hv
    obtain ⟨stage, hstage, rfl⟩ := List.mem_map.mp hv
    exact hchosen stage hstage
  have hlength : passed delay schedule b < (chosen :: schedule.map value).length := by
    have : passed delay schedule b ≤ schedule.length := List.countP_le_length
    rw [List.length_cons, List.length_map]
    omega
  have hpassed : passed delay schedule a ≤ passed delay schedule b := passed_mono schedule hab
  rw [inForce_eq_getD a (h.imp And.left) chosen chosen,
    inForce_eq_getD b (h.imp And.left) chosen chosen,
    List.getD_eq_getElem _ _ (Nat.lt_of_le_of_lt hpassed hlength), List.getD_eq_getElem _ _ hlength]
  rcases Nat.lt_or_eq_of_le hpassed with hlt | heq
  · exact List.pairwise_iff_getElem.mp hsorted _ _ _ _ hlt
  · simp only [heq, le_refl]

/-- Up to the second delay the first value holds. -/
theorem inForce_first {first : ι} {rest : List ι}
    (h : (first :: rest).Pairwise fun a b => delay a < delay b) (chosen : β) :
    inForce delay value (first :: rest) chosen (delay first) = value first := by
  have hnone : passed delay rest (delay first) = 0 :=
    passed_eq_zero fun later hmem => (List.pairwise_cons.mp h).1 later hmem
  rw [inForce_eq_getD _ h chosen chosen, passed_cons_of_le le_rfl, hnone]
  rfl

/-- From the last delay on the last value holds. -/
theorem inForce_last {schedule : List ι} (hne : schedule ≠ [])
    (h : schedule.Pairwise fun a b => delay a < delay b) (chosen : β) {time : α}
    (htime : delay (schedule.getLast hne) ≤ time) :
    inForce delay value schedule chosen time = value (schedule.getLast hne) := by
  have hall : ∀ stage ∈ schedule, delay stage ≤ time := by
    intro stage hstage
    refine le_trans ?_ htime
    rw [← List.dropLast_append_getLast hne] at hstage h
    rcases List.mem_append.mp hstage with hinit | hlast
    · exact ((List.pairwise_append.mp h).2.2 stage hinit _ (List.mem_singleton_self _)).le
    · rw [List.mem_singleton.mp hlast]
  rw [inForce_eq_getD _ h chosen chosen, passed_eq_length hall]
  cases schedule with
  | nil => exact absurd rfl hne
  | cons first rest =>
    rw [List.getLast_eq_getElem, List.getD_eq_getElem _ _ (by simp)]
    exact List.getElem_map value

end MineTeleop.Schedules
