import Mathlib.Data.List.Basic
import Mathlib.Tactic.Common

/-!
# The first cause of a stop

A recorder takes notices of causes and of clears.  It keeps the first cause since it was last
cleared, except that an urgent cause takes the place of one that is not, and it counts the causes
it has taken.

Proved here, for any notices:

* `after_cause`: what is recorded is the first urgent cause since the last clear, else the first
  one at all;
* `after_sequence`: the count is the number of causes that were the first, or the first urgent
  one, when they were raised.
-/

namespace MineTeleop.Causes

variable {κ : Type*}

inductive Notice (κ : Type*) where
  | raised (cause : κ)
  | cleared

structure Record (κ : Type*) where
  cause : Option κ := none
  sequence : ℕ := 0

variable (urgent : κ → Prop) [DecidablePred urgent]

/-- The record gives way to the cause. -/
def Record.Yields (r : Record κ) (cause : κ) : Prop :=
  match r.cause with
  | none => True
  | some held => urgent cause ∧ ¬urgent held

instance (r : Record κ) (cause : κ) : Decidable (r.Yields urgent cause) := by
  unfold Record.Yields
  split <;> infer_instance

def Record.take (r : Record κ) : Notice κ → Record κ
  | .raised cause =>
    if r.Yields urgent cause then { cause := some cause, sequence := r.sequence + 1 } else r
  | .cleared => { r with cause := none }

/-- The record behind the notices, the latest first. -/
def after : List (Notice κ) → Record κ
  | [] => {}
  | notice :: past => (after past).take urgent notice

/-! ## What the record should be -/

/-- The causes since the last clear, the latest first. -/
def sinceClear : List (Notice κ) → List κ
  | [] => []
  | .raised cause :: past => cause :: sinceClear past
  | .cleared :: _ => []

/-- The first urgent cause, else the first one. -/
def first (causes : List κ) : Option κ :=
  (causes.filter fun cause => decide (urgent cause)).getLast?.or causes.getLast?

/-- Behind these causes, a cause is the first, or the first urgent one. -/
def Leads (causes : List κ) (cause : κ) : Prop :=
  causes = [] ∨ (urgent cause ∧ ∀ earlier ∈ causes, ¬urgent earlier)

instance (causes : List κ) (cause : κ) : Decidable (Leads urgent causes cause) :=
  match causes with
  | [] => .isTrue (.inl rfl)
  | held :: rest =>
    decidable_of_iff (urgent cause ∧ ∀ earlier ∈ held :: rest, ¬urgent earlier) (by simp [Leads])

/-- How many causes have led. -/
def leads : List (Notice κ) → ℕ
  | [] => 0
  | .raised cause :: past => leads past + if Leads urgent (sinceClear past) cause then 1 else 0
  | .cleared :: past => leads past

/-! ## What it is -/

variable {urgent}

theorem getLast?_cons_of_ne_nil {a : κ} {l : List κ} (h : l ≠ []) :
    (a :: l).getLast? = l.getLast? := by
  obtain ⟨b, rest, rfl⟩ := List.exists_cons_of_ne_nil h
  exact List.getLast?_cons_cons

theorem first_cons (cause : κ) (causes : List κ) :
    first urgent (cause :: causes) =
      if Leads urgent causes cause then some cause else first urgent causes := by
  by_cases hnil : causes = []
  · by_cases hu : urgent cause <;> simp [first, Leads, hnil, hu]
  have hlast : (cause :: causes).getLast? = causes.getLast? := getLast?_cons_of_ne_nil hnil
  by_cases hnone : ∀ earlier ∈ causes, ¬urgent earlier
  · have hfilter : causes.filter (fun cause => decide (urgent cause)) = [] :=
      List.filter_eq_nil_iff.mpr fun earlier he => by simpa using hnone earlier he
    by_cases hu : urgent cause
    · rw [if_pos (.inr ⟨hu, hnone⟩)]
      simp [first, hu, hfilter]
    · rw [if_neg (by simp [Leads, hnil, hu])]
      simp [first, hu, hfilter, hlast]
  · have hfilter : causes.filter (fun cause => decide (urgent cause)) ≠ [] := fun h =>
      hnone fun earlier he => by simpa using List.filter_eq_nil_iff.mp h earlier he
    have hkept := getLast?_cons_of_ne_nil (a := cause) hfilter
    rw [if_neg (by simp [Leads, hnil, hnone])]
    by_cases hu : urgent cause <;> simp [first, hu, hkept, hlast]

theorem first_eq_none {causes : List κ} : first urgent causes = none ↔ causes = [] := by
  induction causes with
  | nil => simp [first]
  | cons cause causes ih =>
    rw [first_cons]
    split
    · simp
    · rename_i hleads
      rw [ih]
      exact iff_of_false (fun h => hleads (.inl h)) (List.cons_ne_nil cause causes)

theorem urgent_first {causes : List κ} {held : κ} (h : first urgent causes = some held) :
    urgent held ↔ ∃ cause ∈ causes, urgent cause := by
  induction causes with
  | nil => simp [first] at h
  | cons cause causes ih =>
    rw [first_cons] at h
    simp only [List.mem_cons, exists_eq_or_imp]
    split at h
    · rename_i hleads
      obtain rfl := Option.some.inj h
      refine ⟨.inl, fun hu => hu.elim id fun ⟨earlier, he, hu⟩ => ?_⟩
      rcases hleads with rfl | ⟨hu, -⟩
      · exact absurd he List.not_mem_nil
      · exact hu
    · rename_i hleads
      rw [ih h]
      refine ⟨.inr, fun hu => hu.elim (fun hu => ?_) id⟩
      by_contra hnone
      exact hleads (.inr ⟨hu, fun earlier he hearlier => hnone ⟨earlier, he, hearlier⟩⟩)

theorem yields_iff {r : Record κ} {causes : List κ} (h : r.cause = first urgent causes)
    (cause : κ) : r.Yields urgent cause ↔ Leads urgent causes cause := by
  unfold Record.Yields Leads
  cases hheld : r.cause with
  | none =>
    have hnil : causes = [] := first_eq_none.mp (h.symm.trans hheld)
    simp [hnil]
  | some held =>
    have hfirst := h.symm.trans hheld
    have hne : causes ≠ [] := fun hnil =>
      absurd (hfirst.symm.trans (first_eq_none.mpr hnil)) (Option.some_ne_none held)
    simp [hne, urgent_first hfirst]

theorem after_cause (notices : List (Notice κ)) :
    (after urgent notices).cause = first urgent (sinceClear notices) := by
  induction notices with
  | nil => rfl
  | cons notice past ih =>
    cases notice with
    | cleared => rfl
    | raised cause =>
      rw [sinceClear, first_cons, after, Record.take]
      simp only [yields_iff ih cause]
      split
      · rfl
      · exact ih

theorem after_sequence (notices : List (Notice κ)) :
    (after urgent notices).sequence = leads urgent notices := by
  induction notices with
  | nil => rfl
  | cons notice past ih =>
    cases notice with
    | cleared => exact ih
    | raised cause =>
      rw [leads, after, Record.take]
      simp only [yields_iff (after_cause past) cause]
      split
      · exact congrArg (· + 1) ih
      · exact ih

/-- Notices that come in a batch, in the order of the batch. -/
theorem after_reverse_append (batch past : List (Notice κ)) :
    after urgent (batch.reverse ++ past) =
      batch.foldl (fun r notice => r.take urgent notice) (after urgent past) := by
  induction batch generalizing past with
  | nil => rfl
  | cons notice batch ih =>
    rw [List.reverse_cons, List.append_assoc, List.foldl_cons]
    exact ih (notice :: past)

end MineTeleop.Causes
