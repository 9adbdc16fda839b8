import Mathlib.Data.List.Basic
import Mathlib.Order.Lattice
import Mathlib.Tactic.Common

/-!
# Windows of items in flight

Items are numbered and sent one after the other; the other side acknowledges all items up to a
number at once.  A window holds what has been sent and not acknowledged, the oldest first, with the
times of sending.

Proved here, for any numbers and any linear order of times:

* `mem_acknowledged`: an acknowledgement takes away no item behind its number;
* `Vouched.pushed`, `Vouched.acknowledged`: every item of the log that is not acknowledged keeps a
  witness in the window, with a number not before its own and a time not after its own.  The witness
  need not be the item itself: an item that the window refuses has one as well (`Vouched.refused`);
* `Vouched.oldest`: so the oldest item of the window is at least as old as any item of the log that
  is not acknowledged.
-/

namespace MineTeleop.Windows

variable {ν τ : Type*} [LinearOrder ν] [LinearOrder τ]

/-- Numbers rise strictly, times do not fall. -/
def Rising (w : List (ν × τ)) : Prop := w.Pairwise fun p q => p.1 < q.1 ∧ p.2 ≤ q.2

/-- What is left behind an acknowledgement of everything up to `n`. -/
def acknowledged (n : ν) (w : List (ν × τ)) : List (ν × τ) := w.dropWhile fun p => p.1 ≤ n

/-- Every item of `log` behind `n` has a witness in the window. -/
def Vouched (log : List (ν × τ)) (n : ν) (w : List (ν × τ)) : Prop :=
  ∀ p ∈ log, n < p.1 → ∃ q ∈ w, p.1 ≤ q.1 ∧ q.2 ≤ p.2

section
variable {w log : List (ν × τ)} {n m : ν} {p q : ν × τ}

theorem rising_nil : Rising ([] : List (ν × τ)) := List.Pairwise.nil

theorem Rising.push (hw : Rising w) (hp : ∀ q ∈ w, q.1 < p.1 ∧ q.2 ≤ p.2) : Rising (w ++ [p]) := by
  apply List.pairwise_append.mpr
  refine ⟨hw, List.pairwise_singleton _ p, ?_⟩
  intro q hq r hr
  rw [List.mem_singleton.mp hr]
  exact hp q hq

theorem Rising.acknowledged (hw : Rising w) : Rising (acknowledged n w) :=
  hw.sublist (List.dropWhile_sublist _)

/-- The last item is the greatest. -/
theorem Rising.le_last (hw : Rising w) (hlast : w.getLast? = some q) :
    ∀ r ∈ w, r = q ∨ (r.1 < q.1 ∧ r.2 ≤ q.2) := by
  induction w with
  | nil => simp
  | cons a w ih =>
    obtain ⟨ha, hw⟩ := List.pairwise_cons.mp hw
    cases w with
    | nil =>
      intro r hr
      simp only [List.getLast?_singleton, Option.some.injEq] at hlast
      rw [← hlast]
      exact .inl (List.mem_singleton.mp hr)
    | cons b w =>
      rw [List.getLast?_cons_cons] at hlast
      intro r hr
      rcases List.mem_cons.mp hr with rfl | hr
      · exact .inr (ha q (List.mem_of_getLast? hlast))
      · exact ih hw hlast r hr

omit [LinearOrder τ] in
theorem mem_acknowledged (hq : q ∈ w) (hn : n < q.1) : q ∈ acknowledged n w := by
  induction w with
  | nil => exact hq
  | cons a w ih =>
    by_cases ha : a.1 ≤ n
    · have hdrop : acknowledged n (a :: w) = acknowledged n w := by
        simp [acknowledged, ha]
      rw [hdrop]
      rcases List.mem_cons.mp hq with rfl | hq
      · exact absurd ha (not_le.mpr hn)
      · exact ih hq
    · have hkeep : acknowledged n (a :: w) = a :: w := by
        simp [acknowledged, ha]
      rw [hkeep]
      exact hq

theorem vouched_nil (n : ν) (w : List (ν × τ)) : Vouched [] n w := by
  intro p hp
  simp at hp

/-- The item that is sent goes into the window. -/
theorem Vouched.pushed (h : Vouched log n w) : Vouched (p :: log) n (w ++ [p]) := by
  intro q hq hn
  rcases List.mem_cons.mp hq with rfl | hq
  · exact ⟨q, by simp, le_rfl, le_rfl⟩
  · obtain ⟨r, hr, hle⟩ := h q hq hn
    exact ⟨r, List.mem_append_left _ hr, hle⟩

/-- The window refuses an item whose number does not rise: its last item is the witness. -/
theorem Vouched.refused (h : Vouched log n w) (hq : q ∈ w) (hnumber : p.1 ≤ q.1)
    (htime : q.2 ≤ p.2) : Vouched (p :: log) n w := by
  intro r hr hn
  rcases List.mem_cons.mp hr with rfl | hr
  · exact ⟨q, hq, hnumber, htime⟩
  · exact h r hr hn

theorem Vouched.acknowledged (h : Vouched log n w) (hle : n ≤ m) :
    Vouched log m (acknowledged m w) := by
  intro p hp hm
  obtain ⟨q, hq, hnumber, htime⟩ := h p hp (lt_of_le_of_lt hle hm)
  exact ⟨q, mem_acknowledged hq (lt_of_lt_of_le hm hnumber), hnumber, htime⟩

/-- The oldest item of the window is as old as any that is not acknowledged. -/
theorem Vouched.oldest (h : Vouched log n w) (hw : Rising w) (hp : p ∈ log) (hn : n < p.1) :
    ∃ q, w.head? = some q ∧ q.2 ≤ p.2 := by
  obtain ⟨q, hq, -, htime⟩ := h p hp hn
  cases w with
  | nil => simp at hq
  | cons a w =>
    refine ⟨a, rfl, ?_⟩
    rcases List.mem_cons.mp hq with rfl | hq
    · exact htime
    · exact le_trans ((List.pairwise_cons.mp hw).1 q hq).2 htime

end

end MineTeleop.Windows
