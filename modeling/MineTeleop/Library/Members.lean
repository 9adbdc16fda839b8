import MineTeleop.Library.Documents
import Mathlib.Data.List.Nodup

/-!
# Writing documents

Members are set one after the other; readings find them again.

Proved here, for any document and any reading:

* `find?_set_same`, `find?_set_other`: a member that is set, and the others;
* `find?_setAll`, `has_setAll`: members of different names that are set in a row;
* `getUint64_integer` ... `getInt64_bounds`: what an integer type holds is read as it is, and what
  is read is what the type holds;
* `RoundTrips.of_valid`: a writer that is undone on the valid values by a reader that reads no
  others.
-/

namespace MineTeleop.Documents

namespace Json

/-! ## Setting members -/

/-- `value[key] = member`: a member of that name is replaced. -/
def set (json : Json) (key : String) (found : Json) : Json :=
  match json with
  | .object members => .object ((key, found) :: members.filter fun member => member.1 ≠ key)
  | json => json

/-- The members are set in the order of the list. -/
def setAll (json : Json) (members : List (String × Json)) : Json :=
  members.foldl (fun json member => json.set member.1 member.2) json

theorem isObject_set (json : Json) (key : String) (found : Json) :
    (json.set key found).isObject = json.isObject := by
  cases json <;> rfl

theorem lookup_filter_ne (members : List (String × Json)) {key key' : String} (h : key' ≠ key) :
    (members.filter fun member => member.1 ≠ key).lookup key' = members.lookup key' := by
  induction members with
  | nil => rfl
  | cons member members ih =>
    obtain ⟨name, found⟩ := member
    by_cases hname : name = key
    · subst hname
      have hother : (key' == name) = false := beq_eq_false_iff_ne.mpr h
      rw [List.filter_cons_of_neg (by simp), List.lookup_cons, hother, ih]
    · rw [List.filter_cons_of_pos (by simpa using hname), List.lookup_cons, List.lookup_cons, ih]

theorem find?_set_same {json : Json} (hobject : json.isObject = true) (key : String)
    (found : Json) : (json.set key found).find? key = some found := by
  cases json with
  | object members =>
    change List.lookup key ((key, found) :: _) = some found
    rw [List.lookup_cons, beq_self_eq_true]
  | _ => cases hobject

theorem find?_set_other (json : Json) {key key' : String} (h : key' ≠ key) (found : Json) :
    (json.set key found).find? key' = json.find? key' := by
  cases json with
  | object members =>
    have hother : (key' == key) = false := beq_eq_false_iff_ne.mpr h
    change List.lookup key' ((key, found) :: _) = members.lookup key'
    rw [List.lookup_cons, hother]
    exact lookup_filter_ne members h
  | _ => rfl

theorem isObject_setAll (json : Json) (members : List (String × Json)) :
    (json.setAll members).isObject = json.isObject := by
  induction members generalizing json with
  | nil => rfl
  | cons member members ih => exact (ih _).trans (isObject_set json _ _)

theorem find?_setAll {json : Json} (hobject : json.isObject = true)
    {members : List (String × Json)} (hnodup : (members.map Prod.fst).Nodup) (key : String) :
    (json.setAll members).find? key = (members.lookup key).or (json.find? key) := by
  induction members generalizing json with
  | nil => rfl
  | cons member members ih =>
    obtain ⟨name, found⟩ := member
    rw [List.map_cons, List.nodup_cons] at hnodup
    have hset : (json.set name found).isObject = true := (isObject_set json name found).trans hobject
    have hrest : (json.setAll ((name, found) :: members)).find? key =
        (members.lookup key).or ((json.set name found).find? key) := ih hset hnodup.2
    rw [hrest, List.lookup_cons]
    by_cases hname : key = name
    · subst hname
      have habsent : members.lookup key = none := by
        rw [List.lookup_eq_none_iff]
        intro member hmem
        have hne : key ≠ member.1 :=
          fun h => hnodup.1 (List.mem_map.mpr ⟨member, hmem, h.symm⟩)
        simpa using hne
      rw [find?_set_same hobject, habsent, beq_self_eq_true]
      rfl
    · have hother : (key == name) = false := beq_eq_false_iff_ne.mpr hname
      rw [find?_set_other json hname, hother]

/-- The document has these members, perhaps among others. -/
def Has (json : Json) (members : List (String × Json)) : Prop :=
  ∀ member ∈ members, json.find? member.1 = some member.2

theorem lookup_of_mem {members : List (String × Json)} (hnodup : (members.map Prod.fst).Nodup)
    {member : String × Json} (h : member ∈ members) :
    members.lookup member.1 = some member.2 := by
  induction members with
  | nil => cases h
  | cons first members ih =>
    obtain ⟨name, found⟩ := first
    rw [List.map_cons, List.nodup_cons] at hnodup
    rw [List.lookup_cons]
    rcases List.mem_cons.mp h with rfl | hmem
    · rw [beq_self_eq_true]
    · have hne : member.1 ≠ name := fun h => hnodup.1 (List.mem_map.mpr ⟨member, hmem, h⟩)
      have hother : (member.1 == name) = false := beq_eq_false_iff_ne.mpr hne
      rw [hother]
      exact ih hnodup.2 hmem

theorem has_object {members : List (String × Json)} (hnodup : (members.map Prod.fst).Nodup) :
    (Json.object members).Has members := fun _ h => lookup_of_mem hnodup h

theorem has_setAll {json : Json} (hobject : json.isObject = true)
    {members : List (String × Json)} (hnodup : (members.map Prod.fst).Nodup) :
    (json.setAll members).Has members := by
  intro member h
  rw [find?_setAll hobject hnodup, lookup_of_mem hnodup h]
  rfl

/-- Members of other names stay. -/
theorem Has.setAll {json : Json} (hobject : json.isObject = true)
    {members others : List (String × Json)} (hnodup : (others.map Prod.fst).Nodup)
    (h : json.Has members) (hother : (members.map Prod.fst).Disjoint (others.map Prod.fst)) :
    (json.setAll others).Has members := by
  intro member hmem
  have habsent : others.lookup member.1 = none := by
    rw [List.lookup_eq_none_iff]
    intro other hmemOther
    have hne : member.1 ≠ other.1 := fun hsame =>
      hother (List.mem_map.mpr ⟨member, hmem, rfl⟩)
        (List.mem_map.mpr ⟨other, hmemOther, hsame.symm⟩)
    simpa using hne
  rw [find?_setAll hobject hnodup, habsent]
  exact h member hmem

/-! ## Readings of members -/

variable {α : Type} {json : Json} {key : String} {get : Json → Except String α}

theorem member_of_find {found : Json} (h : json.find? key = some found) :
    json.member key = .ok found := by
  cases json with
  | object members =>
    change members.lookup key = some found at h
    simp only [member, h]
  | _ => cases h

theorem field_of_find {found : Json} (h : json.find? key = some found) :
    json.field key get = get found := by
  rw [field, member_of_find h]
  rfl

theorem field_ok {a : α} (h : json.field key get = .ok a) :
    ∃ found, json.find? key = some found ∧ get found = .ok a := by
  obtain ⟨found, hmember, hget⟩ := bind_eq_ok_iff.mp h
  exact ⟨found, member_ok hmember, hget⟩

/-- A reading with a default takes the default, or what is there. -/
theorem value_ok {absent a : α} (h : json.value key get absent = .ok a) :
    (json.find? key = none ∧ a = absent) ∨
      ∃ found, json.find? key = some found ∧ get found = .ok a := by
  cases json with
  | object members =>
    cases hfound : members.lookup key with
    | none =>
      have habsent : (Json.object members).find? key = none := hfound
      simp only [value, hfound] at h
      exact .inl ⟨habsent, (Except.ok.inj h).symm⟩
    | some found =>
      have hthere : (Json.object members).find? key = some found := hfound
      rw [value_of_find absent hthere] at h
      exact .inr ⟨found, hthere, h⟩
  | _ => cases h

/-! ## Integers -/

theorem getUint64_integer {n : ℕ} (h : n < 2 ^ 64) : (Json.integer n).getUint64 = .ok n := by
  have hmod : ((n : ℤ) % 2 ^ 64).toNat = n := by omega
  exact congrArg Except.ok hmod

theorem getInt64_integer {z : ℤ} (hmin : -2 ^ 63 ≤ z) (hmax : z < 2 ^ 63) :
    (Json.integer z).getInt64 = .ok z := by
  have hmod : z.bmod (2 ^ 64) = z := Int.bmod_eq_of_le (by omega) (by omega)
  exact congrArg Except.ok hmod

theorem getInt_integer {z : ℤ} (hmin : -2 ^ 31 ≤ z) (hmax : z < 2 ^ 31) :
    (Json.integer z).getInt = .ok z := by
  have hmod : z.bmod (2 ^ 32) = z := Int.bmod_eq_of_le (by omega) (by omega)
  exact congrArg Except.ok hmod

theorem getUint64_lt {json : Json} {n : ℕ} (h : json.getUint64 = .ok n) : n < 2 ^ 64 := by
  obtain ⟨z, -, hz⟩ := bind_eq_ok_iff.mp h
  obtain rfl := Except.ok.inj hz
  omega

theorem getInt64_bounds {json : Json} {z : ℤ} (h : json.getInt64 = .ok z) :
    -2 ^ 63 ≤ z ∧ z < 2 ^ 63 := by
  obtain ⟨w, -, hw⟩ := bind_eq_ok_iff.mp h
  obtain rfl := Except.ok.inj hw
  have hlow := Int.le_bmod (x := w) (m := 2 ^ 64) (by decide)
  have hhigh := Int.bmod_lt (x := w) (m := 2 ^ 64) (by decide)
  omega

end Json

/-! ## Writers and readers -/

section
variable {α : Type}

/-- What is valid is written and read back; what is read is written and read back. -/
structure RoundTrips (valid : α → Prop) (write : α → Except String Json)
    (read : Json → Except String α) : Prop where
  values : ∀ a, valid a → ∃ json, write a = .ok json ∧ read json = .ok a
  documents : ∀ json a, read json = .ok a → ∃ json', write a = .ok json' ∧ read json' = .ok a

theorem RoundTrips.of_valid {valid : α → Prop} {write : α → Except String Json}
    {read : Json → Except String α}
    (hvalues : ∀ a, valid a → ∃ json, write a = .ok json ∧ read json = .ok a)
    (hvalid : ∀ json a, read json = .ok a → valid a) : RoundTrips valid write read :=
  ⟨hvalues, fun json a h => hvalues a (hvalid json a h)⟩

end

end MineTeleop.Documents
