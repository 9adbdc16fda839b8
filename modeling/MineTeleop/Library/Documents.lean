import Mathlib.Algebra.Order.Ring.Rat
import Mathlib.Data.Int.DivMod

/-!
# JSON documents

A parsed document, its members, and the typed readings of a value: a reading gives the value or
the text of the exception it throws.

Proved here, for any reading:

* `field_speaks`, `value_speaks`: whatever a reading throws has a text;
* `Json.value_of_field`: a reading with a default and one without agree on a member that is there.
-/

namespace MineTeleop.Documents

/-! ## Exceptions with a text -/

section
variable {α β : Type}

/-- Whatever is thrown has a text. -/
def Speaks (x : Except String α) : Prop := ∀ what, x = .error what → what ≠ ""

theorem append_ne_empty_left {s : String} (t : String) (h : s ≠ "") : s ++ t ≠ "" :=
  fun hempty => h (String.append_eq_empty_iff.mp hempty).1

theorem append_ne_empty_right (s : String) {t : String} (h : t ≠ "") : s ++ t ≠ "" :=
  fun hempty => h (String.append_eq_empty_iff.mp hempty).2

theorem speaks_ok (a : α) : Speaks (.ok a) := fun _ h => nomatch h

theorem speaks_error {text : String} (h : text ≠ "") : Speaks (.error text : Except String α) :=
  fun _ hthrown => Except.error.inj hthrown ▸ h

theorem Speaks.bind {x : Except String α} {f : α → Except String β} (hx : Speaks x)
    (hf : ∀ a, Speaks (f a)) : Speaks (x >>= f) := by
  cases x with
  | ok a => exact hf a
  | error text => exact speaks_error (hx text rfl)

end

/-! ## Results -/

section
variable {ε α β : Type}

/-- A sequence succeeds exactly when both of its parts do. -/
theorem bind_eq_ok_iff {x : Except ε α} {f : α → Except ε β} {b : β} :
    (x >>= f) = .ok b ↔ ∃ a, x = .ok a ∧ f a = .ok b := by
  cases x with
  | ok a => exact ⟨fun h => ⟨a, rfl, h⟩, fun ⟨_, ha, h⟩ => Except.ok.inj ha ▸ h⟩
  | error e => exact ⟨(nomatch ·), fun ⟨_, ha, _⟩ => nomatch ha⟩

theorem ite_error_eq_ok_iff {p : Prop} [Decidable p] {e : ε} {x : Except ε α} {a : α} :
    (if p then .error e else x) = .ok a ↔ ¬p ∧ x = .ok a := by
  by_cases hp : p <;> simp [hp]

end

/-! ## Documents -/

inductive Json where
  | null
  | boolean (value : Bool)
  | integer (value : ℤ)
  | number (value : ℚ)
  | string (value : String)
  | array (elements : List Json)
  | object (members : List (String × Json))

namespace Json

def typeName : Json → String
  | .null => "null"
  | .boolean _ => "boolean"
  | .integer _ => "number"
  | .number _ => "number"
  | .string _ => "string"
  | .array _ => "array"
  | .object _ => "object"

def isObject : Json → Bool
  | .object _ => true
  | _ => false

def isBoolean : Json → Bool
  | .boolean _ => true
  | _ => false

def find? (json : Json) (key : String) : Option Json :=
  match json with
  | .object members => members.lookup key
  | _ => none

def contains (json : Json) (key : String) : Bool := (json.find? key).isSome

/-! ## Typed readings -/

def mistyped (expected : String) (json : Json) : String :=
  "[json.exception.type_error.302] type must be " ++ expected ++ ", but is " ++ json.typeName

def getString : Json → Except String String
  | .string value => .ok value
  | json => .error (mistyped "string" json)

def getBoolean : Json → Except String Bool
  | .boolean value => .ok value
  | json => .error (mistyped "boolean" json)

def getDouble : Json → Except String ℚ
  | .integer value => .ok value
  | .number value => .ok value
  | json => .error (mistyped "number" json)

/-- Towards zero, as a conversion to an integer type goes. -/
def truncate (value : ℚ) : ℤ := value.num.tdiv value.den

def getInteger : Json → Except String ℤ
  | .integer value => .ok value
  | .number value => .ok (truncate value)
  | json => .error (mistyped "number" json)

def getUint64 (json : Json) : Except String ℕ := do
  let value ← json.getInteger
  .ok (value % 2 ^ 64).toNat

def getInt64 (json : Json) : Except String ℤ := do
  let value ← json.getInteger
  .ok (value.bmod (2 ^ 64))

/-- `get<int>`, which takes a boolean for a number. -/
def getInt : Json → Except String ℤ
  | .boolean value => .ok (if value then 1 else 0)
  | json => do
    let value ← json.getInteger
    .ok (value.bmod (2 ^ 32))

theorem speaks_mistyped {α : Type} (expected : String) (json : Json) :
    Speaks (.error (mistyped expected json) : Except String α) := by
  refine speaks_error ?_
  exact append_ne_empty_left _ (append_ne_empty_left _ (append_ne_empty_left _ (by decide)))

theorem getString_speaks (json : Json) : Speaks json.getString := by
  cases json with
  | string value => exact speaks_ok value
  | _ => exact speaks_mistyped "string" _

theorem getBoolean_speaks (json : Json) : Speaks json.getBoolean := by
  cases json with
  | boolean value => exact speaks_ok value
  | _ => exact speaks_mistyped "boolean" _

theorem getDouble_speaks (json : Json) : Speaks json.getDouble := by
  cases json with
  | integer value => exact speaks_ok (value : ℚ)
  | number value => exact speaks_ok value
  | _ => exact speaks_mistyped "number" _

theorem getInteger_speaks (json : Json) : Speaks json.getInteger := by
  cases json with
  | integer value => exact speaks_ok value
  | number value => exact speaks_ok (truncate value)
  | _ => exact speaks_mistyped "number" _

theorem getUint64_speaks (json : Json) : Speaks json.getUint64 :=
  (getInteger_speaks json).bind fun _ => speaks_ok _

theorem getInt64_speaks (json : Json) : Speaks json.getInt64 :=
  (getInteger_speaks json).bind fun _ => speaks_ok _

theorem getInt_speaks (json : Json) : Speaks json.getInt := by
  cases json with
  | boolean value => exact speaks_ok _
  | _ => exact (getInteger_speaks _).bind fun _ => speaks_ok _

/-! ## Members -/

variable {α : Type}

/-- `at`. -/
def member (json : Json) (key : String) : Except String Json :=
  match json with
  | .object members =>
    match members.lookup key with
    | some value => .ok value
    | none => .error ("[json.exception.out_of_range.403] key '" ++ key ++ "' not found")
  | _ => .error ("[json.exception.type_error.304] cannot use at() with " ++ json.typeName)

/-- `at` and `get`. -/
def field (json : Json) (key : String) (get : Json → Except String α) : Except String α :=
  json.member key >>= get

/-- A member that is not there has the default; one that is there has to be of the type. -/
def value (json : Json) (key : String) (get : Json → Except String α) (absent : α) :
    Except String α :=
  match json with
  | .object members =>
    match members.lookup key with
    | some value => get value
    | none => .ok absent
  | _ => .error ("[json.exception.type_error.306] cannot use value() with " ++ json.typeName)

theorem member_speaks (json : Json) (key : String) : Speaks (json.member key) := by
  unfold member
  split
  · split
    · exact speaks_ok _
    · refine speaks_error ?_
      exact append_ne_empty_left _ (append_ne_empty_left _ (by decide))
  · exact speaks_error (append_ne_empty_left _ (by decide))

theorem field_speaks (json : Json) (key : String) {get : Json → Except String α}
    (hget : ∀ found, Speaks (get found)) : Speaks (json.field key get) :=
  (member_speaks json key).bind hget

theorem value_speaks (json : Json) (key : String) {get : Json → Except String α} (absent : α)
    (hget : ∀ found, Speaks (get found)) : Speaks (json.value key get absent) := by
  unfold value
  split
  · split
    · exact hget _
    · exact speaks_ok absent
  · exact speaks_error (append_ne_empty_left _ (by decide))

theorem member_ok {json found : Json} {key : String} (h : json.member key = .ok found) :
    json.find? key = some found := by
  unfold member at h
  split at h
  · split at h
    · rename_i hfound
      obtain rfl := Except.ok.inj h
      exact hfound
    · cases h
  · cases h

theorem value_of_find {json found : Json} {key : String} {get : Json → Except String α}
    (absent : α) (h : json.find? key = some found) : json.value key get absent = get found := by
  cases json with
  | object members =>
    change members.lookup key = some found at h
    simp only [value, h]
  | _ => cases h

/-- The default does not matter to a member that is there. -/
theorem value_of_field {json : Json} {key : String} {get : Json → Except String α} {a : α}
    (absent : α) (h : json.field key get = .ok a) : json.value key get absent = .ok a := by
  unfold field at h
  cases hfound : json.member key with
  | error what =>
    rw [hfound] at h
    cases h
  | ok found =>
    rw [hfound] at h
    rw [value_of_find absent (member_ok hfound)]
    exact h

/-! ## Comparison -/

mutual

def decEq : (json json' : Json) → Decidable (json = json')
  | .null, .null => .isTrue rfl
  | .boolean value, .boolean value' => decidable_of_iff (value = value') (by simp)
  | .integer value, .integer value' => decidable_of_iff (value = value') (by simp)
  | .number value, .number value' => decidable_of_iff (value = value') (by simp)
  | .string value, .string value' => decidable_of_iff (value = value') (by simp)
  | .array elements, .array elements' =>
    have := decEqElements elements elements'
    decidable_of_iff (elements = elements') (by simp)
  | .object members, .object members' =>
    have := decEqMembers members members'
    decidable_of_iff (members = members') (by simp)
  | .null, .boolean _ | .null, .integer _ | .null, .number _ | .null, .string _ | .null, .array _
  | .null, .object _ | .boolean _, .null | .boolean _, .integer _ | .boolean _, .number _
  | .boolean _, .string _ | .boolean _, .array _ | .boolean _, .object _ | .integer _, .null
  | .integer _, .boolean _ | .integer _, .number _ | .integer _, .string _ | .integer _, .array _
  | .integer _, .object _ | .number _, .null | .number _, .boolean _ | .number _, .integer _
  | .number _, .string _ | .number _, .array _ | .number _, .object _ | .string _, .null
  | .string _, .boolean _ | .string _, .integer _ | .string _, .number _ | .string _, .array _
  | .string _, .object _ | .array _, .null | .array _, .boolean _ | .array _, .integer _
  | .array _, .number _ | .array _, .string _ | .array _, .object _ | .object _, .null
  | .object _, .boolean _ | .object _, .integer _ | .object _, .number _ | .object _, .string _
  | .object _, .array _ => .isFalse nofun

def decEqElements : (elements elements' : List Json) → Decidable (elements = elements')
  | [], [] => .isTrue rfl
  | json :: elements, json' :: elements' =>
    have := decEq json json'
    have := decEqElements elements elements'
    decidable_of_iff (json = json' ∧ elements = elements') (by simp)
  | [], _ :: _ => .isFalse nofun
  | _ :: _, [] => .isFalse nofun

def decEqMembers : (members members' : List (String × Json)) → Decidable (members = members')
  | [], [] => .isTrue rfl
  | (key, json) :: members, (key', json') :: members' =>
    have := decEq json json'
    have := decEqMembers members members'
    decidable_of_iff ((key = key' ∧ json = json') ∧ members = members') (by simp)
  | [], _ :: _ => .isFalse nofun
  | _ :: _, [] => .isFalse nofun

end

instance : DecidableEq Json := decEq

end Json

end MineTeleop.Documents
