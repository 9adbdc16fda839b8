import Mathlib.Data.List.Basic
import Mathlib.Data.List.Infix

/-!
# Files that grow at the end

What a file holds at an offset, and what stays true of it while it grows towards another file.
Proved here:

* `HoldsAt.of_prefix`: what was held once is held ever after;
* `prefix_append`: a part of the source at the end of what is stored makes a longer part of it;
* `HoldsAt.eq_of_prefix`: whoever holds the last part of the source holds all of it.
-/

namespace MineTeleop.Appends

variable {α : Type*} {file stored stored' part : List α} {offset : ℕ}

/-- The part is in the file, beginning at the offset. -/
def HoldsAt (stored : List α) (offset : ℕ) (part : List α) : Prop :=
  offset ≤ stored.length ∧ part <+: stored.drop offset

instance [DecidableEq α] : Decidable (HoldsAt stored offset part) :=
  inferInstanceAs (Decidable (_ ∧ _))

theorem HoldsAt.length_le (h : HoldsAt stored offset part) :
    offset + part.length ≤ stored.length := by
  have hpart := h.2.length_le
  rw [List.length_drop] at hpart
  have hoffset := h.1
  omega

theorem holdsAt_iff_take : HoldsAt stored offset part ↔
    offset ≤ stored.length ∧ (stored.drop offset).take part.length = part := by
  unfold HoldsAt
  rw [List.prefix_iff_eq_take, eq_comm]

theorem holdsAt_append (stored part : List α) : HoldsAt (stored ++ part) stored.length part := by
  constructor
  · simp
  · rw [List.drop_left]

theorem HoldsAt.of_prefix (h : HoldsAt stored offset part) (hgrown : stored <+: stored') :
    HoldsAt stored' offset part := by
  obtain ⟨rest, rfl⟩ := hgrown
  have hoffset := h.1
  constructor
  · rw [List.length_append]
    omega
  · rw [List.drop_append_of_le_length hoffset]
    exact h.2.trans (List.prefix_append _ _)

theorem prefix_append (h : stored <+: file) (hpart : part <+: file.drop stored.length) :
    stored ++ part <+: file := by
  obtain ⟨rest, rfl⟩ := h
  rw [List.drop_left] at hpart
  exact (List.prefix_append_right_inj stored).mpr hpart

theorem HoldsAt.eq_of_prefix (h : HoldsAt stored offset part) (hpieces : stored <+: file)
    (hend : offset + part.length = file.length) : stored = file := by
  have hlength := h.length_le
  exact hpieces.eq_of_length_le (by omega)

end MineTeleop.Appends
