import Mathlib.Data.List.Infix

/-!
# Texts with stretches of them replaced

A text is patched when some stretches of it are gone and a marker stands for each of them. The
marker is a word between two delimiters.

Proved here, for a needle without the delimiters that does not occur in the word:

* `Patched.infix_of_infix`: where the needle occurs in the patched text, it occurred before;
* `replaceAll_free`: the needle does not occur where all its occurrences are replaced;
* `replaceAll_of_free`: nothing is replaced where the needle does not occur.
-/

namespace MineTeleop.Patches

section
variable {α : Type}

/-! ## Occurrences around a delimiter -/

theorem prefix_of_prefix_append_cons {before after : List α} {delimiter : α} :
    ∀ {needle : List α}, delimiter ∉ needle → needle <+: before ++ delimiter :: after →
      needle <+: before := by
  induction before with
  | nil =>
    intro needle hno h
    cases needle with
    | nil => exact List.nil_prefix
    | cons c rest =>
      obtain ⟨rfl, -⟩ := List.cons_prefix_cons.mp h
      exact absurd List.mem_cons_self hno
  | cons c before ih =>
    intro needle hno h
    cases needle with
    | nil => exact List.nil_prefix
    | cons d rest =>
      obtain ⟨rfl, hrest⟩ := List.cons_prefix_cons.mp h
      have htail := ih (fun hmem => hno (List.mem_cons_of_mem _ hmem)) hrest
      exact List.cons_prefix_cons.mpr ⟨rfl, htail⟩

/-- What has no delimiter in it stands on one side of it. -/
theorem infix_append_cons {needle before after : List α} {delimiter : α}
    (hno : delimiter ∉ needle) (h : needle <:+: before ++ delimiter :: after) :
    needle <:+: before ∨ needle <:+: after := by
  induction before with
  | nil =>
    rcases List.infix_cons_iff.mp h with hstarts | hoccurs
    · have hnil : needle <+: [] := prefix_of_prefix_append_cons hno hstarts
      exact .inl hnil.isInfix
    · exact .inr hoccurs
  | cons c before ih =>
    rcases List.infix_cons_iff.mp h with hstarts | hoccurs
    · have hbefore : needle <+: c :: before := prefix_of_prefix_append_cons hno hstarts
      exact .inl hbefore.isInfix
    · rcases ih hoccurs with hbefore | hafter
      · exact .inl (List.infix_cons hbefore)
      · exact .inr hafter

/-! ## Patched texts -/

/-- What stands for a stretch. -/
structure Marker (α : Type) where
  before : α
  word : List α
  after : α

def Marker.text (marker : Marker α) : List α := marker.before :: (marker.word ++ [marker.after])

/-- No end of the marker is in the needle, and the needle is not in its word. -/
structure Marker.Avoids (marker : Marker α) (needle : List α) : Prop where
  before : marker.before ∉ needle
  after : marker.after ∉ needle
  word : ¬needle <:+: marker.word

inductive Patched (marker : Marker α) : List α → List α → Prop
  | nil : Patched marker [] []
  | keep (c : α) {old new : List α} : Patched marker old new → Patched marker (c :: old) (c :: new)
  | replace (gap : List α) {old new : List α} :
      Patched marker old new → Patched marker (gap ++ old) (marker.text ++ new)

namespace Patched

variable {marker : Marker α} {old new needle : List α}

theorem refl : ∀ text : List α, Patched marker text text
  | [] => nil
  | c :: text => keep c (refl text)

theorem append (kept : List α) (h : Patched marker old new) :
    Patched marker (kept ++ old) (kept ++ new) := by
  induction kept with
  | nil => exact h
  | cons c kept ih => exact keep c ih

theorem starts_of_starts (hno : marker.before ∉ needle) (h : Patched marker old new)
    (hstarts : needle <+: new) : needle <+: old := by
  induction h generalizing needle with
  | nil => exact hstarts
  | keep c h ih =>
    cases needle with
    | nil => exact List.nil_prefix
    | cons d rest =>
      obtain ⟨rfl, hrest⟩ := List.cons_prefix_cons.mp hstarts
      have hkept := ih (fun hmem => hno (List.mem_cons_of_mem _ hmem)) hrest
      exact List.cons_prefix_cons.mpr ⟨rfl, hkept⟩
  | replace gap h ih =>
    have hnil : needle <+: [] := prefix_of_prefix_append_cons hno hstarts
    rw [List.prefix_nil.mp hnil]
    exact List.nil_prefix

theorem infix_after_marker (hav : marker.Avoids needle) (h : needle <:+: marker.text ++ new) :
    needle <:+: new := by
  have hshape : marker.text ++ new = [] ++ marker.before :: (marker.word ++ marker.after :: new) := by
    simp [Marker.text]
  rw [hshape] at h
  rcases infix_append_cons hav.before h with hnil | hrest
  · exact hnil.trans List.nil_infix
  · rcases infix_append_cons hav.after hrest with hword | hnew
    · exact absurd hword hav.word
    · exact hnew

/-- Where the needle occurs in the patched text, it occurred before. -/
theorem infix_of_infix (hav : marker.Avoids needle) (h : Patched marker old new)
    (hoccurs : needle <:+: new) : needle <:+: old := by
  induction h with
  | nil => exact hoccurs
  | keep c h ih =>
    rcases List.infix_cons_iff.mp hoccurs with hstarts | hnew
    · exact ((h.keep c).starts_of_starts hav.before hstarts).isInfix
    · exact List.infix_cons (ih hnew)
  | replace gap h ih =>
    exact List.infix_append_of_infix_right (ih (infix_after_marker hav hoccurs))

end Patched

end

/-! ## Replacing all occurrences -/

section
variable {α : Type} [DecidableEq α]

/-- Each occurrence in turn, the search going on after what was put in. -/
def replaceAll (marker : Marker α) (needle : List α) (text : List α) : List α :=
  match text with
  | [] => []
  | c :: rest =>
    if needle <+: c :: rest then
      marker.text ++ replaceAll marker needle (rest.drop (needle.length - 1))
    else c :: replaceAll marker needle rest
termination_by text.length
decreasing_by
  · simp only [List.length_drop, List.length_cons]
    omega
  · simp

variable {marker : Marker α} {needle : List α}

theorem replaceAll_patched (hne : needle ≠ []) (text : List α) :
    Patched marker text (replaceAll marker needle text) := by
  fun_induction replaceAll marker needle text with
  | case1 => exact .nil
  | case2 c rest hstarts ih =>
    have hgap : c :: rest = needle ++ rest.drop (needle.length - 1) := by
      cases needle with
      | nil => exact absurd rfl hne
      | cons d word =>
        obtain ⟨rfl, hword⟩ := List.cons_prefix_cons.mp hstarts
        simpa using (List.prefix_append_drop hword)
    rw [hgap]
    exact ih.replace needle
  | case3 c rest hstarts ih => exact ih.keep c

/-- The needle does not occur where all its occurrences are replaced. -/
theorem replaceAll_free (hne : needle ≠ []) (hav : marker.Avoids needle) (text : List α) :
    ¬needle <:+: replaceAll marker needle text := by
  fun_induction replaceAll marker needle text with
  | case1 => exact fun h => hne (List.infix_nil.mp h)
  | case2 c rest hstarts ih => exact fun h => ih (Patched.infix_after_marker hav h)
  | case3 c rest hstarts ih =>
    intro h
    rcases List.infix_cons_iff.mp h with hhere | hlater
    · have hkept : Patched marker (c :: rest) (c :: replaceAll marker needle rest) :=
        (replaceAll_patched hne rest).keep c
      exact hstarts (hkept.starts_of_starts hav.before hhere)
    · exact ih hlater

theorem replaceAll_of_free (text : List α) (hfree : ¬needle <:+: text) :
    replaceAll marker needle text = text := by
  fun_induction replaceAll marker needle text with
  | case1 => rfl
  | case2 c rest hstarts ih => exact absurd hstarts.isInfix hfree
  | case3 c rest hstarts ih => rw [ih fun h => hfree (List.infix_cons h)]

end

end MineTeleop.Patches
