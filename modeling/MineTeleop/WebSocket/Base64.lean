import MineTeleop.Library.Bytes
import MineTeleop.Library.Documents
import MineTeleop.Service.Command

/-!
# The base64 of the handshake

Three bytes against four digits, in a loop each way.  Proved here:

* `base64Decode_encode`: what was encoded is read back;
* `base64Decode_ok_iff`: which strings are read;
* `decoded_shape`: how the encoding of what was read differs from the string;
* `base64_inverse`: all three.
-/

namespace MineTeleop.WebSocket

open Documents
open Service (Failure)

/-! ## Digits -/

def alphabet : List UInt8 :=
  "ABCDEFGHIJKLMNOPQRSTUVWXYZabcdefghijklmnopqrstuvwxyz0123456789+/".toList.map Char.toUInt8

/-- The padding. -/
def equalSign : UInt8 := '='.toUInt8

def base64Digit (value : UInt8) : ℤ :=
  if 'A'.toUInt8 ≤ value ∧ value ≤ 'Z'.toUInt8 then value.toNat - 'A'.toNat
  else if 'a'.toUInt8 ≤ value ∧ value ≤ 'z'.toUInt8 then value.toNat - 'a'.toNat + 26
  else if '0'.toUInt8 ≤ value ∧ value ≤ '9'.toUInt8 then value.toNat - '0'.toNat + 52
  else if value = '+'.toUInt8 then 62
  else if value = '/'.toUInt8 then 63
  else -1

/-- `alphabet[index]`. -/
def letter (index : ℕ) : UInt8 := alphabet.getD index 0

theorem base64Digit_letter {n : ℕ} (h : n < 64) : base64Digit (letter n) = n := by
  have hall : ∀ i : Fin 64, base64Digit (letter i) = (i : ℕ) := by decide +kernel
  exact hall ⟨n, h⟩

theorem letter_mem {n : ℕ} (h : n < 64) : letter n ∈ alphabet := by
  have hall : ∀ i : Fin 64, alphabet.contains (letter i) = true := by decide +kernel
  exact List.contains_iff_mem.mp (hall ⟨n, h⟩)

theorem mem_alphabet_iff (value : UInt8) : value ∈ alphabet ↔ 0 ≤ base64Digit value := by
  have hall : ∀ i : Fin 256, alphabet.contains (⟨⟨i⟩⟩ : UInt8) = decide (0 ≤ base64Digit ⟨⟨i⟩⟩) := by
    decide +kernel
  rw [← List.contains_iff_mem]
  have hvalue : alphabet.contains value = decide (0 ≤ base64Digit value) :=
    Bytes.forall_byte (p := fun value => alphabet.contains value = decide (0 ≤ base64Digit value))
      hall value
  rw [hvalue, decide_eq_true_iff]

theorem exists_letter {value : UInt8} (h : value ∈ alphabet) : ∃ n < 64, value = letter n := by
  obtain ⟨n, hn, hvalue⟩ := List.getElem_of_mem h
  refine ⟨n, hn, ?_⟩
  rw [letter, List.getD_eq_getElem?_getD, List.getElem?_eq_getElem hn, Option.getD_some, hvalue]

theorem letter_ne_equalSign {n : ℕ} (h : n < 64) : letter n ≠ equalSign := by
  have hall : ∀ i : Fin 64, letter i ≠ equalSign := by decide +kernel
  exact hall ⟨n, h⟩

/-! ## The two loops -/

/-- One turn of the loop, with one to three bytes ahead. -/
def encodeBlock (first : UInt8) (second third : Option UInt8) : List UInt8 :=
  let block := (first.toNat <<< 16) ||| second.elim 0 (fun byte => byte.toNat <<< 8) |||
    third.elim 0 UInt8.toNat
  [letter ((block >>> 18) &&& 0x3f), letter ((block >>> 12) &&& 0x3f),
    if second.isSome then letter ((block >>> 6) &&& 0x3f) else equalSign,
    if third.isSome then letter (block &&& 0x3f) else equalSign]

def base64Encode : List UInt8 → List UInt8
  | [] => []
  | [first] => encodeBlock first none none
  | [first, second] => encodeBlock first (some second) none
  | first :: second :: third :: rest =>
    encodeBlock first (some second) (some third) ++ base64Encode rest

def invalidBase64 : Failure := .invalidArgument "invalid base64"

/-- One turn of the loop; `last` is the turn that ends the string. -/
def decodeBlock (last : Bool) (first second third fourth : UInt8) : Except Failure (List UInt8) :=
  let thirdPadding := decide (third = equalSign)
  let fourthPadding := decide (fourth = equalSign)
  if first = equalSign ∨ second = equalSign ∨ (thirdPadding && !fourthPadding) = true ∨
      (!last && (thirdPadding || fourthPadding)) = true then
    .error invalidBase64
  else
    let first := base64Digit first
    let second := base64Digit second
    let third := if thirdPadding then 0 else base64Digit third
    let fourth := if fourthPadding then 0 else base64Digit fourth
    if first < 0 ∨ second < 0 ∨ third < 0 ∨ fourth < 0 then .error invalidBase64
    else
      let block := (first.toNat <<< 18) ||| (second.toNat <<< 12) ||| (third.toNat <<< 6) |||
        fourth.toNat
      .ok ([UInt8.ofNat ((block >>> 16) &&& 0xff)] ++
        (if thirdPadding then [] else [UInt8.ofNat ((block >>> 8) &&& 0xff)]) ++
        (if fourthPadding then [] else [UInt8.ofNat (block &&& 0xff)]))

def decodeBlocks : List UInt8 → Except Failure (List UInt8)
  | first :: second :: third :: fourth :: rest => do
    let bytes ← decodeBlock rest.isEmpty first second third fourth
    return bytes ++ (← decodeBlocks rest)
  | _ => .ok []

def base64Decode (encoded : List UInt8) : Except Failure (List UInt8) :=
  if encoded = [] ∨ encoded.length % 4 ≠ 0 then .error invalidBase64 else decodeBlocks encoded

/-! ## One turn -/

/-- The bytes of a block of 24 bits, as the number it is. -/
theorem block_of_bytes {a b c : ℕ} (hb : b < 256) (hc : c < 256) :
    (a <<< 16 ||| b <<< 8) ||| c = a * 65536 + b * 256 + c := by
  have hbc : b <<< 8 ||| c = b <<< 8 + c := (Nat.shiftLeft_add_eq_or_of_lt hc b).symm
  rw [Nat.or_assoc, hbc, ← Nat.shiftLeft_add_eq_or_of_lt (by rw [Nat.shiftLeft_eq]; omega),
    Nat.shiftLeft_eq, Nat.shiftLeft_eq]
  omega

theorem block_of_digits {w x y z : ℕ} (hx : x < 64) (hy : y < 64) (hz : z < 64) :
    ((w <<< 18 ||| x <<< 12) ||| y <<< 6) ||| z = w * 262144 + x * 4096 + y * 64 + z := by
  have hyz : y <<< 6 ||| z = y <<< 6 + z := (Nat.shiftLeft_add_eq_or_of_lt hz y).symm
  have hxyz : x <<< 12 ||| (y <<< 6 + z) = x <<< 12 + (y <<< 6 + z) :=
    (Nat.shiftLeft_add_eq_or_of_lt (by rw [Nat.shiftLeft_eq]; omega) x).symm
  rw [Nat.or_assoc, Nat.or_assoc, hyz, hxyz,
    ← Nat.shiftLeft_add_eq_or_of_lt (by rw [Nat.shiftLeft_eq, Nat.shiftLeft_eq]; omega),
    Nat.shiftLeft_eq, Nat.shiftLeft_eq, Nat.shiftLeft_eq]
  omega

theorem low_sextet (n : ℕ) : n &&& 0x3f = n % 64 := Nat.and_two_pow_sub_one_eq_mod n 6

theorem low_octet (n : ℕ) : n &&& 0xff = n % 256 := Nat.and_two_pow_sub_one_eq_mod n 8

theorem encodeBlock_three (first second third : UInt8) :
    encodeBlock first (some second) (some third) =
      [letter (first.toNat / 4), letter (first.toNat % 4 * 16 + second.toNat / 16),
        letter (second.toNat % 16 * 4 + third.toNat / 64), letter (third.toNat % 64)] := by
  have hfirst := first.toNat_lt
  have hsecond := second.toNat_lt
  have hthird := third.toNat_lt
  unfold encodeBlock
  simp only [Option.elim_some, block_of_bytes hsecond hthird, low_sextet,
    Nat.shiftRight_eq_div_pow, Option.isSome_some, if_true, List.cons.injEq, and_true]
  refine ⟨congrArg letter ?_, congrArg letter ?_, congrArg letter ?_, congrArg letter ?_⟩
  all_goals omega

theorem encodeBlock_two (first second : UInt8) :
    encodeBlock first (some second) none =
      [letter (first.toNat / 4), letter (first.toNat % 4 * 16 + second.toNat / 16),
        letter (second.toNat % 16 * 4), equalSign] := by
  have hfirst := first.toNat_lt
  have hsecond := second.toNat_lt
  unfold encodeBlock
  simp only [Option.elim_some, Option.elim_none, block_of_bytes hsecond (by decide : 0 < 256),
    low_sextet, Nat.shiftRight_eq_div_pow, Option.isSome_some, if_true, List.cons.injEq, and_true]
  refine ⟨congrArg letter ?_, congrArg letter ?_, congrArg letter ?_, rfl⟩
  all_goals omega

theorem encodeBlock_one (first : UInt8) :
    encodeBlock first none none =
      [letter (first.toNat / 4), letter (first.toNat % 4 * 16), equalSign, equalSign] := by
  have hfirst := first.toNat_lt
  have hblock : (first.toNat <<< 16 ||| 0) ||| 0 = first.toNat * 65536 := by
    rw [Nat.or_zero, Nat.or_zero, Nat.shiftLeft_eq]
  unfold encodeBlock
  simp only [Option.elim_none, hblock, low_sextet, Nat.shiftRight_eq_div_pow, List.cons.injEq,
    and_true]
  refine ⟨congrArg letter ?_, congrArg letter ?_, rfl, rfl⟩
  all_goals omega

/-- A turn that does not throw, with `y` and `z` in the place of what may be padding. -/
theorem decodeBlock_eq (last : Bool) {third fourth : UInt8} {w x y z : ℕ} (hw : w < 64)
    (hx : x < 64) (hy : y < 64) (hz : z < 64)
    (hthird : (if third = equalSign then 0 else base64Digit third) = y)
    (hfourth : (if fourth = equalSign then 0 else base64Digit fourth) = z)
    (hpadding : third = equalSign → fourth = equalSign) (hlast : fourth = equalSign → last = true) :
    decodeBlock last (letter w) (letter x) third fourth =
      .ok ([UInt8.ofNat (w * 4 + x / 16)] ++
        (if third = equalSign then [] else [UInt8.ofNat (x % 16 * 16 + y / 4)]) ++
        (if fourth = equalSign then [] else [UInt8.ofNat (y % 4 * 64 + z)])) := by
  have hblock := block_of_digits (w := w) hx hy hz
  have hhigh : (w * 262144 + x * 4096 + y * 64 + z) / 2 ^ 16 % 256 = w * 4 + x / 16 := by omega
  have hmiddle : (w * 262144 + x * 4096 + y * 64 + z) / 2 ^ 8 % 256 = x % 16 * 16 + y / 4 := by
    omega
  have hlow : (w * 262144 + x * 4096 + y * 64 + z) % 256 = y % 4 * 64 + z := by omega
  unfold decodeBlock
  dsimp only
  simp only [decide_eq_true_iff, base64Digit_letter hw, base64Digit_letter hx, hthird, hfourth,
    Int.toNat_natCast, hblock, Nat.shiftRight_eq_div_pow, low_octet]
  rw [if_neg, if_neg (by omega), hhigh, hmiddle, hlow]
  · have hnot : last = false → ¬fourth = equalSign := by
      intro hfalse hequal
      exact Bool.false_ne_true (hfalse.symm.trans (hlast hequal))
    simp only [letter_ne_equalSign hw, letter_ne_equalSign hx, false_or, not_or]
    simp only [Bool.and_eq_true, Bool.not_eq_true', Bool.or_eq_true, decide_eq_true_iff,
      decide_eq_false_iff_not, not_and, not_not, not_or]
    exact ⟨hpadding, fun hfalse => ⟨fun h => hnot hfalse (hpadding h), hnot hfalse⟩⟩

theorem decodeBlock_four (last : Bool) {w x y z : ℕ} (hw : w < 64) (hx : x < 64) (hy : y < 64)
    (hz : z < 64) :
    decodeBlock last (letter w) (letter x) (letter y) (letter z) =
      .ok [UInt8.ofNat (w * 4 + x / 16), UInt8.ofNat (x % 16 * 16 + y / 4),
        UInt8.ofNat (y % 4 * 64 + z)] := by
  have hthird := letter_ne_equalSign hy
  have hfourth := letter_ne_equalSign hz
  rw [decodeBlock_eq last hw hx hy hz (by rw [if_neg hthird, base64Digit_letter hy])
    (by rw [if_neg hfourth, base64Digit_letter hz]) (absurd · hthird) (absurd · hfourth),
    if_neg hthird, if_neg hfourth]
  rfl

theorem decodeBlock_three {w x y : ℕ} (hw : w < 64) (hx : x < 64) (hy : y < 64) :
    decodeBlock true (letter w) (letter x) (letter y) equalSign =
      .ok [UInt8.ofNat (w * 4 + x / 16), UInt8.ofNat (x % 16 * 16 + y / 4)] := by
  have hthird := letter_ne_equalSign hy
  rw [decodeBlock_eq true hw hx hy (by decide : 0 < 64)
    (by rw [if_neg hthird, base64Digit_letter hy]) (if_pos rfl) (absurd · hthird) (fun _ => rfl),
    if_neg hthird, if_pos rfl]
  rfl

theorem decodeBlock_two {w x : ℕ} (hw : w < 64) (hx : x < 64) :
    decodeBlock true (letter w) (letter x) equalSign equalSign =
      .ok [UInt8.ofNat (w * 4 + x / 16)] := by
  rw [decodeBlock_eq true hw hx (by decide : 0 < 64) (by decide : 0 < 64) (if_pos rfl) (if_pos rfl)
    (fun _ => rfl) (fun _ => rfl), if_pos rfl, if_pos rfl]
  rfl

/-- What a turn has checked when it does not throw. -/
theorem decodeBlock_checked {last : Bool} {first second third fourth : UInt8} {bytes : List UInt8}
    (h : decodeBlock last first second third fourth = .ok bytes) :
    first ∈ alphabet ∧ second ∈ alphabet ∧ (third ∈ alphabet ∨ third = equalSign ∧
      fourth = equalSign) ∧ (fourth ∈ alphabet ∨ fourth = equalSign ∧ last = true) := by
  unfold decodeBlock at h
  simp only [ite_error_eq_ok_iff, not_or, not_lt, Bool.and_eq_true, Bool.not_eq_true',
    Bool.or_eq_true, decide_eq_true_iff, decide_eq_false_iff_not, not_and, not_not] at h
  obtain ⟨⟨-, -, hpadding, hlast⟩, ⟨hfirst, hsecond, hthird, hfourth⟩, -⟩ := h
  simp only [mem_alphabet_iff]
  refine ⟨hfirst, hsecond, ?_, ?_⟩
  · by_cases hequal : third = equalSign
    · exact .inr ⟨hequal, hpadding hequal⟩
    · rw [if_neg hequal] at hthird
      exact .inl hthird
  · by_cases hequal : fourth = equalSign
    · refine .inr ⟨hequal, ?_⟩
      by_contra hfalse
      exact (hlast (Bool.eq_false_iff.mpr hfalse)).2 hequal
    · rw [if_neg hequal] at hfourth
      exact .inl hfourth

/-- The turns that do not throw, with what they append. -/
inductive Turn (last : Bool) : List UInt8 → List UInt8 → Prop where
  | four {w x y z : ℕ} (hw : w < 64) (hx : x < 64) (hy : y < 64) (hz : z < 64) :
      Turn last [letter w, letter x, letter y, letter z]
        [UInt8.ofNat (w * 4 + x / 16), UInt8.ofNat (x % 16 * 16 + y / 4),
          UInt8.ofNat (y % 4 * 64 + z)]
  | three {w x y : ℕ} (hlast : last = true) (hw : w < 64) (hx : x < 64) (hy : y < 64) :
      Turn last [letter w, letter x, letter y, equalSign]
        [UInt8.ofNat (w * 4 + x / 16), UInt8.ofNat (x % 16 * 16 + y / 4)]
  | two {w x : ℕ} (hlast : last = true) (hw : w < 64) (hx : x < 64) :
      Turn last [letter w, letter x, equalSign, equalSign] [UInt8.ofNat (w * 4 + x / 16)]

theorem turn_of_decodeBlock {last : Bool} {first second third fourth : UInt8} {bytes : List UInt8}
    (h : decodeBlock last first second third fourth = .ok bytes) :
    Turn last [first, second, third, fourth] bytes := by
  obtain ⟨hfirst, hsecond, hthird, hfourth⟩ := decodeBlock_checked h
  obtain ⟨w, hw, rfl⟩ := exists_letter hfirst
  obtain ⟨x, hx, rfl⟩ := exists_letter hsecond
  obtain hthird | ⟨rfl, rfl⟩ := hthird
  · obtain ⟨y, hy, rfl⟩ := exists_letter hthird
    obtain hfourth | ⟨rfl, rfl⟩ := hfourth
    · obtain ⟨z, hz, rfl⟩ := exists_letter hfourth
      obtain rfl := Except.ok.inj ((decodeBlock_four last hw hx hy hz).symm.trans h)
      exact .four hw hx hy hz
    · obtain rfl := Except.ok.inj ((decodeBlock_three hw hx hy).symm.trans h)
      exact .three rfl hw hx hy
  · obtain hfourth | ⟨-, rfl⟩ := hfourth
    · obtain ⟨z, hz, hequal⟩ := exists_letter hfourth
      exact absurd hequal.symm (letter_ne_equalSign hz)
    · obtain rfl := Except.ok.inj ((decodeBlock_two hw hx).symm.trans h)
      exact .two rfl hw hx

theorem decodeBlock_of_turn {last : Bool} {first second third fourth : UInt8} {bytes : List UInt8}
    (h : Turn last [first, second, third, fourth] bytes) :
    decodeBlock last first second third fourth = .ok bytes := by
  cases h with
  | four hw hx hy hz => exact decodeBlock_four last hw hx hy hz
  | three hlast hw hx hy => exact hlast ▸ decodeBlock_three hw hx hy
  | two hlast hw hx => exact hlast ▸ decodeBlock_two hw hx

/-! ## Decoding what was encoded -/

theorem decodeBlocks_four {first second third fourth : UInt8} {rest bytes data : List UInt8}
    (hturn : Turn rest.isEmpty [first, second, third, fourth] bytes)
    (hrest : decodeBlocks rest = .ok data) :
    decodeBlocks ([first, second, third, fourth] ++ rest) = .ok (bytes ++ data) := by
  change decodeBlocks (first :: second :: third :: fourth :: rest) = _
  rw [decodeBlocks, decodeBlock_of_turn hturn, hrest]
  rfl

theorem decodeBlocks_encode (data : List UInt8) : decodeBlocks (base64Encode data) = .ok data := by
  have hbyte : ∀ {n : ℕ} (byte : UInt8), n = byte.toNat → UInt8.ofNat n = byte := by
    intro n byte h
    rw [h, UInt8.ofNat_toNat]
  fun_induction base64Encode data with
  | case1 => rfl
  | case2 first =>
    have hfirst := first.toNat_lt
    rw [encodeBlock_one]
    refine (decodeBlocks_four (.two rfl (by omega) (by omega)) rfl).trans ?_
    rw [hbyte first (by omega)]
    rfl
  | case3 first second =>
    have hfirst := first.toNat_lt
    have hsecond := second.toNat_lt
    rw [encodeBlock_two]
    refine (decodeBlocks_four (.three rfl (by omega) (by omega) (by omega)) rfl).trans ?_
    rw [hbyte first (by omega), hbyte second (by omega)]
    rfl
  | case4 first second third rest ih =>
    have hfirst := first.toNat_lt
    have hsecond := second.toNat_lt
    have hthird := third.toNat_lt
    rw [encodeBlock_three]
    refine (decodeBlocks_four (.four (by omega) (by omega) (by omega) (by omega)) ih).trans ?_
    rw [hbyte first (by omega), hbyte second (by omega),
      hbyte third (by omega)]
    rfl

theorem base64Encode_length (data : List UInt8) : (base64Encode data).length % 4 = 0 := by
  have hblock : ∀ first second third, (encodeBlock first second third).length = 4 :=
    fun _ _ _ => rfl
  fun_induction base64Encode data with
  | case1 => rfl
  | case2 | case3 => rw [hblock]
  | case4 first second third rest ih =>
    rw [List.length_append, hblock]
    omega

theorem base64Encode_ne_nil {data : List UInt8} (h : data ≠ []) : base64Encode data ≠ [] := by
  fun_cases base64Encode data with
  | case1 => exact absurd rfl h
  | case2 | case3 | case4 => exact List.cons_ne_nil _ _

theorem base64Decode_encode {data : List UInt8} (h : data ≠ []) :
    base64Decode (base64Encode data) = .ok data := by
  rw [base64Decode, if_neg, decodeBlocks_encode]
  rintro (hempty | hlength)
  · exact base64Encode_ne_nil h hempty
  · exact hlength (base64Encode_length data)

/-! ## What is read -/

def Padding (padding : List UInt8) : Prop :=
  padding = [] ∨ padding = [equalSign] ∨ padding = [equalSign, equalSign]

theorem Padding.length_le {padding : List UInt8} (h : Padding padding) : padding.length ≤ 2 := by
  rcases h with rfl | rfl | rfl <;> decide

/-- Digits, and padding at the very end. -/
def Padded (encoded : List UInt8) : Prop :=
  ∃ digits padding, encoded = digits ++ padding ∧ (∀ digit ∈ digits, digit ∈ alphabet) ∧
    Padding padding

/-- Equal but for the last digit, whose bits under the padding are zero in `canonical`. -/
def UpToUnusedBits (encoded canonical : List UInt8) : Prop :=
  ∃ digits digit lastDigit padding, encoded = digits ++ digit :: padding ∧
    canonical = digits ++ lastDigit :: padding ∧ (∀ digit ∈ digits, digit ∈ alphabet) ∧
    digit ∈ alphabet ∧ lastDigit ∈ alphabet ∧ Padding padding ∧
    base64Digit lastDigit = base64Digit digit / 4 ^ padding.length * 4 ^ padding.length

theorem UpToUnusedBits.padded {encoded canonical : List UInt8}
    (h : UpToUnusedBits encoded canonical) : Padded encoded := by
  obtain ⟨digits, digit, lastDigit, padding, rfl, -, hdigits, hdigit, -, hpadding, -⟩ := h
  refine ⟨digits ++ [digit], padding, by rw [List.append_assoc, List.singleton_append], ?_, hpadding⟩
  intro other hother
  obtain hother | hother := List.mem_append.mp hother
  · exact hdigits other hother
  · rw [List.mem_singleton.mp hother]
    exact hdigit

theorem UpToUnusedBits.append {encoded canonical before : List UInt8}
    (h : UpToUnusedBits encoded canonical) (hbefore : ∀ digit ∈ before, digit ∈ alphabet) :
    UpToUnusedBits (before ++ encoded) (before ++ canonical) := by
  obtain ⟨digits, digit, lastDigit, padding, rfl, rfl, hdigits, hrest⟩ := h
  refine ⟨before ++ digits, digit, lastDigit, padding, by rw [List.append_assoc],
    by rw [List.append_assoc], ?_, hrest⟩
  intro other hother
  exact (List.mem_append.mp hother).elim (hbefore other) (hdigits other)

theorem toNat_byte {n : ℕ} (h : n < 256) : (UInt8.ofNat n).toNat = n :=
  UInt8.toNat_ofNat_of_lt' h

theorem encode_four {w x y z : ℕ} (hw : w < 64) (hx : x < 64) (hy : y < 64) (hz : z < 64) :
    encodeBlock (UInt8.ofNat (w * 4 + x / 16)) (some (UInt8.ofNat (x % 16 * 16 + y / 4)))
        (some (UInt8.ofNat (y % 4 * 64 + z))) = [letter w, letter x, letter y, letter z] := by
  rw [encodeBlock_three, toNat_byte (by omega), toNat_byte (by omega), toNat_byte (by omega)]
  simp only [List.cons.injEq, and_true]
  refine ⟨congrArg letter ?_, congrArg letter ?_, congrArg letter ?_, congrArg letter ?_⟩
  all_goals omega

theorem encode_three {w x y : ℕ} (hw : w < 64) (hx : x < 64) (hy : y < 64) :
    encodeBlock (UInt8.ofNat (w * 4 + x / 16)) (some (UInt8.ofNat (x % 16 * 16 + y / 4))) none =
      [letter w, letter x, letter (y / 4 * 4), equalSign] := by
  rw [encodeBlock_two, toNat_byte (by omega), toNat_byte (by omega)]
  simp only [List.cons.injEq, and_true]
  refine ⟨congrArg letter ?_, congrArg letter ?_, congrArg letter ?_⟩
  all_goals omega

theorem encode_two {w x : ℕ} (hw : w < 64) (hx : x < 64) :
    encodeBlock (UInt8.ofNat (w * 4 + x / 16)) none none =
      [letter w, letter (x / 16 * 16), equalSign, equalSign] := by
  rw [encodeBlock_one, toNat_byte (by omega)]
  simp only [List.cons.injEq, and_true]
  refine ⟨congrArg letter ?_, congrArg letter ?_⟩
  all_goals omega

theorem letters_mem {ns : List ℕ} (h : ∀ n ∈ ns, n < 64) :
    ∀ digit ∈ ns.map letter, digit ∈ alphabet := by
  intro digit hdigit
  obtain ⟨n, hn, rfl⟩ := List.mem_map.mp hdigit
  exact letter_mem (h n hn)

/-- The bytes of the last turn, encoded again. -/
theorem Turn.encoded {last : Bool} {block bytes : List UInt8} (h : Turn last block bytes) :
    UpToUnusedBits block (base64Encode bytes) := by
  cases h with
  | @four w x y z hw hx hy hz =>
    refine ⟨[w, x, y].map letter, letter z, letter z, [], rfl,
      (List.append_nil _).trans (encode_four hw hx hy hz), letters_mem (by simp [hw, hx, hy]),
      letter_mem hz, letter_mem hz, .inl rfl, ?_⟩
    rw [base64Digit_letter hz]
    simp
  | @three w x y hlast hw hx hy =>
    refine ⟨[w, x].map letter, letter y, letter (y / 4 * 4), [equalSign], rfl,
      encode_three hw hx hy, letters_mem (by simp [hw, hx]), letter_mem hy, letter_mem (by omega),
      .inr (.inl rfl), ?_⟩
    rw [base64Digit_letter hy, base64Digit_letter (by omega)]
    norm_num
  | @two w x hlast hw hx =>
    refine ⟨[w].map letter, letter x, letter (x / 16 * 16), [equalSign, equalSign], rfl,
      encode_two hw hx, letters_mem (by simp [hw]), letter_mem hx, letter_mem (by omega),
      .inr (.inr rfl), ?_⟩
    rw [base64Digit_letter hx, base64Digit_letter (by omega)]
    norm_num

/-- A turn that is not the last one is read and written as it is. -/
theorem Turn.encoded_ahead {block bytes : List UInt8} (h : Turn false block bytes) :
    (∀ digit ∈ block, digit ∈ alphabet) ∧
      ∀ data, base64Encode (bytes ++ data) = block ++ base64Encode data := by
  cases h with
  | @four w x y z hw hx hy hz =>
    have hletters : ∀ digit ∈ [w, x, y, z].map letter, digit ∈ alphabet :=
      letters_mem (by simp [hw, hx, hy, hz])
    refine ⟨hletters, fun data => ?_⟩
    rw [← encode_four hw hx hy hz]
    rfl
  | three hlast | two hlast => cases hlast

theorem decoded_shape {encoded data : List UInt8} (hlength : encoded.length % 4 = 0)
    (hempty : encoded ≠ []) (h : decodeBlocks encoded = .ok data) :
    UpToUnusedBits encoded (base64Encode data) := by
  fun_induction decodeBlocks encoded generalizing data with
  | case1 first second third fourth rest ih =>
    simp only [bind_eq_ok_iff] at h
    obtain ⟨bytes, hblock, behind, hrest, hdata⟩ := h
    obtain rfl := Except.ok.inj hdata
    have hturn := turn_of_decodeBlock hblock
    cases rest with
    | nil =>
      obtain rfl := Except.ok.inj hrest
      rw [List.append_nil]
      exact hturn.encoded
    | cons next rest =>
      obtain ⟨hdigits, hencoded⟩ := hturn.encoded_ahead
      rw [hencoded]
      have hmod : (next :: rest).length % 4 = 0 := by
        simp only [List.length_cons] at hlength ⊢
        omega
      exact (ih hmod (List.cons_ne_nil _ _) hrest).append hdigits
  | case2 encoded hshort =>
    rcases encoded with _ | ⟨first, _ | ⟨second, _ | ⟨third, _ | ⟨fourth, rest⟩⟩⟩⟩
    · exact absurd rfl hempty
    · cases hlength
    · cases hlength
    · cases hlength
    · exact (hshort first second third fourth rest rfl).elim

theorem base64Decode_eq {encoded : List UInt8} (hempty : encoded ≠ [])
    (hlength : encoded.length % 4 = 0) : base64Decode encoded = decodeBlocks encoded := by
  rw [base64Decode, if_neg]
  rintro (h | h)
  · exact hempty h
  · exact h hlength

theorem base64Decode_shape {encoded data : List UInt8} (h : base64Decode encoded = .ok data) :
    encoded ≠ [] ∧ encoded.length % 4 = 0 ∧ UpToUnusedBits encoded (base64Encode data) := by
  rw [base64Decode, ite_error_eq_ok_iff, not_or, not_not] at h
  obtain ⟨⟨hempty, hlength⟩, h⟩ := h
  exact ⟨hempty, hlength, decoded_shape hlength hempty h⟩

theorem turn_of_digits (last : Bool) {first second third fourth : UInt8}
    (h : ∀ digit ∈ [first, second, third, fourth], digit ∈ alphabet) :
    ∃ bytes, Turn last [first, second, third, fourth] bytes := by
  simp only [List.forall_mem_cons] at h
  obtain ⟨hfirst, hsecond, hthird, hfourth, -⟩ := h
  obtain ⟨w, hw, rfl⟩ := exists_letter hfirst
  obtain ⟨x, hx, rfl⟩ := exists_letter hsecond
  obtain ⟨y, hy, rfl⟩ := exists_letter hthird
  obtain ⟨z, hz, rfl⟩ := exists_letter hfourth
  exact ⟨_, .four hw hx hy hz⟩

theorem turn_of_padded {first second third fourth : UInt8}
    (h : Padded [first, second, third, fourth]) :
    ∃ bytes, Turn true [first, second, third, fourth] bytes := by
  obtain ⟨digits, padding, hsplit, hdigits, rfl | rfl | rfl⟩ := h
  · rw [List.append_nil] at hsplit
    exact turn_of_digits true (hsplit ▸ hdigits)
  · have hback : [first, second, third] ++ [fourth] = digits ++ [equalSign] := hsplit
    obtain ⟨rfl, hequal⟩ := List.append_inj' hback rfl
    obtain rfl := List.singleton_injective hequal
    simp only [List.forall_mem_cons] at hdigits
    obtain ⟨hfirst, hsecond, hthird, -⟩ := hdigits
    obtain ⟨w, hw, rfl⟩ := exists_letter hfirst
    obtain ⟨x, hx, rfl⟩ := exists_letter hsecond
    obtain ⟨y, hy, rfl⟩ := exists_letter hthird
    exact ⟨_, .three rfl hw hx hy⟩
  · have hback : [first, second] ++ [third, fourth] = digits ++ [equalSign, equalSign] := hsplit
    obtain ⟨rfl, hequal⟩ := List.append_inj' hback rfl
    cases hequal
    simp only [List.forall_mem_cons] at hdigits
    obtain ⟨hfirst, hsecond, -⟩ := hdigits
    obtain ⟨w, hw, rfl⟩ := exists_letter hfirst
    obtain ⟨x, hx, rfl⟩ := exists_letter hsecond
    exact ⟨_, .two rfl hw hx⟩

/-- Four characters with more than the padding behind them are digits. -/
theorem padded_ahead (block : List UInt8) {rest : List UInt8} (h : Padded (block ++ rest))
    (hrest : 2 < rest.length) : (∀ digit ∈ block, digit ∈ alphabet) ∧ Padded rest := by
  obtain ⟨digits, padding, hsplit, hdigits, hpadding⟩ := h
  obtain ⟨behind, rfl, rfl⟩ | ⟨between, rfl, rfl⟩ := List.append_eq_append_iff.mp hsplit
  · exact ⟨fun digit hdigit => hdigits digit (List.mem_append_left _ hdigit), behind, padding, rfl,
      fun digit hdigit => hdigits digit (List.mem_append_right _ hdigit), hpadding⟩
  · have hshort := hpadding.length_le
    rw [List.length_append] at hshort
    omega

theorem decodeBlocks_of_padded {encoded : List UInt8} (hlength : encoded.length % 4 = 0)
    (h : Padded encoded) : ∃ data, decodeBlocks encoded = .ok data := by
  fun_induction decodeBlocks encoded with
  | case1 first second third fourth rest ih =>
    cases rest with
    | nil =>
      obtain ⟨bytes, hturn⟩ := turn_of_padded h
      exact ⟨_, decodeBlocks_four hturn rfl⟩
    | cons next rest =>
      simp only [List.length_cons] at hlength
      have hmore : 2 < (next :: rest).length := by
        rw [List.length_cons]
        omega
      obtain ⟨hdigits, hrest⟩ := padded_ahead [first, second, third, fourth] h hmore
      obtain ⟨bytes, hturn⟩ := turn_of_digits false hdigits
      obtain ⟨data, hdata⟩ := ih (by rw [List.length_cons]; omega) hrest
      exact ⟨_, decodeBlocks_four hturn hdata⟩
  | case2 => exact ⟨[], rfl⟩

theorem base64Decode_ok_iff (encoded : List UInt8) :
    (∃ data, base64Decode encoded = .ok data) ↔
      encoded ≠ [] ∧ encoded.length % 4 = 0 ∧ Padded encoded := by
  constructor
  · rintro ⟨data, h⟩
    obtain ⟨hempty, hlength, hshape⟩ := base64Decode_shape h
    exact ⟨hempty, hlength, hshape.padded⟩
  · rintro ⟨hempty, hlength, hpadded⟩
    rw [base64Decode_eq hempty hlength]
    exact decodeBlocks_of_padded hlength hpadded

/-- A decoder undoes the encoder, reads the padded strings only, and forgets no other bits. -/
theorem base64_inverse :
    (∀ data : List UInt8, data ≠ [] → base64Decode (base64Encode data) = .ok data) ∧
      (∀ encoded, (∃ data, base64Decode encoded = .ok data) ↔
        encoded ≠ [] ∧ encoded.length % 4 = 0 ∧ Padded encoded) ∧
      ∀ encoded data, base64Decode encoded = .ok data →
        UpToUnusedBits encoded (base64Encode data) :=
  ⟨fun _ => base64Decode_encode, base64Decode_ok_iff,
    fun _ _ h => (base64Decode_shape h).2.2⟩

end MineTeleop.WebSocket
