import Mathlib.Data.List.AList

/-!
# Tables with string keys

A table is Mathlib's `AList` over one type of values, with the two operations that the containers
of a program have and `AList` has not: erasing every entry that meets a condition, and changing
the value of an entry where there is one.  `lookup_eraseIf` and `lookup_adjust` say what is found
afterwards.
-/

namespace MineTeleop.Tables

abbrev Table (α : Type) := AList fun _ : String => α

variable {α : Type}

namespace Table

/-- `std::erase_if`. -/
def eraseIf (table : Table α) (p : String → α → Bool) : Table α where
  entries := table.entries.filter fun entry => !p entry.1 entry.2
  nodupKeys := table.nodupKeys.sublist List.filter_sublist

/-- Change the value under a key that is there. -/
def adjust (table : Table α) (key : String) (f : α → α) : Table α :=
  match table.lookup key with
  | some value => table.insert key (f value)
  | none => table

variable {table : Table α} {key key' : String}

theorem lookup_eraseIf (p : String → α → Bool) :
    (table.eraseIf p).lookup key = (table.lookup key).filter fun value => !p key value := by
  apply Option.ext
  intro value
  rw [Option.filter_eq_some_iff]
  show value ∈ (table.eraseIf p).lookup key ↔ value ∈ table.lookup key ∧ _
  rw [AList.mem_lookup_iff, AList.mem_lookup_iff]
  exact List.mem_filter

theorem lookup_adjust (f : α → α) :
    (table.adjust key f).lookup key' =
      if key' = key then (table.lookup key').map f else table.lookup key' := by
  unfold adjust
  by_cases hkey : key' = key
  · subst hkey
    rw [if_pos rfl]
    cases hvalue : table.lookup key' with
    | none => simpa using hvalue
    | some value => simp
  · rw [if_neg hkey]
    cases table.lookup key with
    | none => rfl
    | some value => exact AList.lookup_insert_ne hkey

@[simp] theorem lookup_adjust_self (f : α → α) :
    (table.adjust key f).lookup key = (table.lookup key).map f := by
  rw [lookup_adjust, if_pos rfl]

theorem lookup_adjust_ne (f : α → α) (h : key' ≠ key) :
    (table.adjust key f).lookup key' = table.lookup key' := by
  rw [lookup_adjust, if_neg h]

theorem lookup_insert (value : α) :
    AList.lookup key' (AList.insert key value table) =
      if key' = key then some value else table.lookup key' := by
  by_cases hkey : key' = key
  · subst hkey
    rw [if_pos rfl, AList.lookup_insert]
  · rw [if_neg hkey, AList.lookup_insert_ne hkey]

theorem lookup_erase :
    AList.lookup key' (AList.erase key table) =
      if key' = key then none else table.lookup key' := by
  by_cases hkey : key' = key
  · subst hkey
    rw [if_pos rfl, AList.lookup_erase]
  · rw [if_neg hkey, AList.lookup_erase_ne hkey]

theorem mem_keys_of_lookup {value : α} (h : table.lookup key = some value) : key ∈ table.keys :=
  AList.mem_keys.mp (AList.lookup_isSome.mp (h ▸ rfl))

end Table

end MineTeleop.Tables
