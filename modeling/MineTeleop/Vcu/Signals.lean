import MineTeleop.Library.BitFields
import MineTeleop.Vcu.Protocol
import Mathlib.Tactic.Linarith

/-!
# Signals as bit fields

A frame's eight bytes are one word, and a signal is a field of it. A physical value is rounded to
the nearest step of its scale.

Proved here:

* `extractSignal_eq`, `load_insertSignal`: the signal helpers are the lens of the field;
* `Scale.decode_encode`: a value within the scale is read back within half a step.
-/

namespace MineTeleop.Vcu

open BitFields

/-! ## The word of a frame -/

theorem getLsbD_foldl_or {α : Type} (values : List α) (g : α → BitVec 64) (start : BitVec 64)
    (i : ℕ) : (values.foldl (fun value index => value ||| g index) start).getLsbD i =
      (start.getLsbD i || values.any fun index => (g index).getLsbD i) := by
  induction values generalizing start with
  | nil => simp
  | cons index values ih =>
    rw [List.foldl_cons, ih, BitVec.getLsbD_or, List.any_cons, Bool.or_assoc]

/-- A shifted byte has its bits in its own place and no others. -/
theorem getLsbD_shifted_byte (data : Fin 8 → BitVec 8) (k byte : Fin 8) {i : ℕ} (hi : i < 8) :
    ((data k).setWidth 64 <<< (k.val * 8)).getLsbD (byte.val * 8 + i) =
      (decide (k = byte) && (data byte).getLsbD i) := by
  have hk := k.isLt
  have hbyte := byte.isLt
  rw [BitVec.getLsbD_shiftLeft, BitVec.getLsbD_setWidth]
  rcases lt_trichotomy k.val byte.val with hlt | heq | hgt
  · have hbit : (data k).getLsbD (byte.val * 8 + i - k.val * 8) = false :=
      BitVec.getLsbD_of_ge _ _ (by omega)
    have hne : k ≠ byte := fun h => absurd (congrArg Fin.val h) (by omega)
    simp [hbit, hne]
  · obtain rfl := Fin.ext heq
    simp [hi, show k.val * 8 + i < 64 by omega]
    omega
  · have hne : k ≠ byte := fun h => absurd (congrArg Fin.val h) (by omega)
    simp [hne, show byte.val * 8 + i < k.val * 8 by omega]

theorem getLsbD_loadLittleEndian (data : Fin 8 → BitVec 8) (byte : Fin 8) {i : ℕ} (hi : i < 8) :
    (loadLittleEndian data).getLsbD (byte.val * 8 + i) = (data byte).getLsbD i := by
  rw [loadLittleEndian, getLsbD_foldl_or]
  simp only [getLsbD_shifted_byte data _ byte hi]
  cases (data byte).getLsbD i <;> simp

theorem getLsbD_storeLittleEndian (value : BitVec 64) (byte : Fin 8) {i : ℕ} (hi : i < 8) :
    (storeLittleEndian value byte).getLsbD i = value.getLsbD (byte.val * 8 + i) := by
  have hmask : (0xFF#64) = lowMask 64 8 := rfl
  have hbit : (0xFF#64).getLsbD i = true := by
    rw [hmask, getLsbD_lowMask]
    simp [hi, show i < 64 by omega]
  rw [storeLittleEndian, BitVec.getLsbD_setWidth, BitVec.getLsbD_and, hbit,
    BitVec.getLsbD_ushiftRight]
  simp [hi]

/-- Two words with the same bytes are the same. -/
theorem word_ext {value value' : BitVec 64}
    (h : ∀ (byte : Fin 8) (i : ℕ), i < 8 →
      value.getLsbD (byte.val * 8 + i) = value'.getLsbD (byte.val * 8 + i)) : value = value' := by
  apply BitVec.eq_of_getLsbD_eq
  intro i hi
  have hbyte := h ⟨i / 8, by omega⟩ (i % 8) (Nat.mod_lt _ (by decide))
  have hjoin : i / 8 * 8 + i % 8 = i := by omega
  simpa only [hjoin] using hbyte

theorem load_store (value : BitVec 64) : loadLittleEndian (storeLittleEndian value) = value := by
  apply word_ext
  intro byte i hi
  rw [getLsbD_loadLittleEndian _ byte hi, getLsbD_storeLittleEndian _ byte hi]

theorem store_load (data : Fin 8 → BitVec 8) : storeLittleEndian (loadLittleEndian data) = data := by
  funext byte
  apply BitVec.eq_of_getLsbD_eq
  intro i hi
  rw [getLsbD_storeLittleEndian _ byte hi, getLsbD_loadLittleEndian _ byte hi]

/-! ## Signals -/

theorem signalMask_eq (length : ℕ) : signalMask length = lowMask 64 length := by
  unfold signalMask
  split
  · rename_i hlong
    apply BitVec.eq_of_getLsbD_eq
    intro i hi
    rw [getLsbD_lowMask, BitVec.getLsbD_allOnes]
    simp [show i < length by omega]
  · rename_i hshort
    have hpow : 2 ^ length < 2 ^ 64 := Nat.pow_lt_pow_right (by decide) (by omega)
    have hpos : 0 < 2 ^ length := Nat.two_pow_pos length
    apply BitVec.eq_of_toNat_eq
    simp [lowMask, Nat.shiftLeft_eq]
    omega

theorem extractSignal_eq (frame : CanFrame) (f : Field) :
    extractSignal frame f.start f.length = get f (loadLittleEndian frame.data) := by
  rw [extractSignal, signalMask_eq]
  rfl

theorem load_insertSignal (frame : CanFrame) (f : Field) (raw : BitVec 64) :
    loadLittleEndian (insertSignal frame f.start f.length raw).data =
      put f (loadLittleEndian frame.data) raw := by
  simp only [insertSignal, signalMask_eq, load_store]
  rfl

theorem insertSignal_eq (frame : CanFrame) (f : Field) (raw : BitVec 64) :
    insertSignal frame f.start f.length raw =
      { frame with data := storeLittleEndian (put f (loadLittleEndian frame.data) raw) } := by
  simp only [insertSignal, signalMask_eq]
  rfl

/-! ## Physical values -/

/-- `raw * factor + offset` in `length` bits, with a range of values that fits in them. -/
structure Scale where
  factor : ℚ
  offset : ℚ
  length : ℕ
  minimum : ℚ
  maximum : ℚ
  positive : 0 < factor
  narrow : length < 64
  above : offset ≤ minimum
  fits : (maximum - offset) / factor ≤ 2 ^ length - 1

namespace Scale

def encode (s : Scale) (value : ℚ) : BitVec 64 :=
  encodePhysical value s.factor s.offset s.length s.minimum s.maximum

def decode (s : Scale) (raw : BitVec 64) : ℚ := decodePhysical raw s.factor s.offset

def InRange (s : Scale) (value : ℚ) : Prop := s.minimum ≤ value ∧ value ≤ s.maximum

instance (s : Scale) (value : ℚ) : Decidable (s.InRange value) :=
  inferInstanceAs (Decidable (_ ∧ _))

end Scale

theorem clamp_of_inRange {value minimum maximum : ℚ} (hmin : minimum ≤ value)
    (hmax : value ≤ maximum) : clamp value minimum maximum = value := by
  rw [clamp, if_neg (not_lt.mpr hmin), if_neg (not_lt.mpr hmax)]

theorem llround_of_nonneg {x : ℚ} (h : 0 ≤ x) : llround x = ⌊x + 1 / 2⌋ := if_pos h

/-- Rounding is off by half a step at most. -/
theorem abs_llround_sub_le {x : ℚ} (h : 0 ≤ x) : |(llround x : ℚ) - x| ≤ 1 / 2 := by
  rw [llround_of_nonneg h, abs_le]
  have hle := Int.floor_le (x + 1 / 2)
  have hlt := Int.lt_floor_add_one (x + 1 / 2)
  constructor <;> linarith

theorem llround_nonneg {x : ℚ} (h : 0 ≤ x) : 0 ≤ llround x := by
  rw [llround_of_nonneg h]
  exact Int.floor_nonneg.mpr (by linarith)

theorem llround_le {x : ℚ} (h : 0 ≤ x) {n : ℤ} (hn : x ≤ n) : llround x ≤ n := by
  rw [llround_of_nonneg h, ← Int.lt_add_one_iff, Int.floor_lt]
  push_cast
  linarith

theorem toNat_signalMask {length : ℕ} (h : length < 64) :
    (signalMask length).toNat = 2 ^ length - 1 := by
  have hpow : 2 ^ length < 2 ^ 64 := Nat.pow_lt_pow_right (by decide) h
  rw [signalMask_eq, lowMask, BitVec.toNat_ofNat]
  exact Nat.mod_eq_of_lt (by omega)

namespace Scale

variable {s : Scale} {value : ℚ}

/-- No value in the range is clamped, neither before the rounding nor after it. -/
theorem toNat_encode (h : s.InRange value) :
    ((s.encode value).toNat : ℤ) = llround ((value - s.offset) / s.factor) := by
  have hnonneg : 0 ≤ (value - s.offset) / s.factor :=
    div_nonneg (sub_nonneg.mpr (s.above.trans h.1)) s.positive.le
  have hfits : (value - s.offset) / s.factor ≤ ((2 ^ s.length - 1 : ℤ) : ℚ) := by
    have hmax : (value - s.offset) / s.factor ≤ (s.maximum - s.offset) / s.factor :=
      div_le_div_of_nonneg_right (sub_le_sub_right h.2 _) s.positive.le
    push_cast
    exact hmax.trans s.fits
  have hlow := llround_nonneg hnonneg
  have hhigh := llround_le hnonneg hfits
  have hpow : (2 : ℤ) ^ s.length < 2 ^ 64 := pow_lt_pow_right₀ (by decide) s.narrow
  have hmask := toNat_signalMask s.narrow
  have hpos : 0 < 2 ^ s.length := Nat.two_pow_pos s.length
  rw [encode, encodePhysical, clamp_of_inRange h.1 h.2]
  generalize llround ((value - s.offset) / s.factor) = raw at hlow hhigh ⊢
  have hcast : ((2 ^ s.length : ℕ) : ℤ) = 2 ^ s.length := by push_cast; rfl
  rw [hmask, BitVec.toNat_ofNat, max_eq_left hlow, Nat.min_eq_left (by omega),
    Nat.mod_eq_of_lt (by omega)]
  omega

theorem encode_lt (s : Scale) (value : ℚ) : (s.encode value).toNat < 2 ^ s.length := by
  have hpos : 0 < 2 ^ s.length := Nat.two_pow_pos s.length
  have hpow : 2 ^ s.length < 2 ^ 64 := Nat.pow_lt_pow_right (by decide) s.narrow
  rw [encode, encodePhysical]
  rw [toNat_signalMask s.narrow, BitVec.toNat_ofNat]
  exact (Nat.mod_le _ _).trans_lt (by omega)

/-- A value in the range is read back within half a step. -/
theorem decode_encode (h : s.InRange value) :
    |s.decode (s.encode value) - value| ≤ s.factor / 2 := by
  have hnonneg : 0 ≤ (value - s.offset) / s.factor :=
    div_nonneg (sub_nonneg.mpr (s.above.trans h.1)) s.positive.le
  have hraw : ((s.encode value).toNat : ℚ) = llround ((value - s.offset) / s.factor) := by
    exact_mod_cast congrArg (Int.cast : ℤ → ℚ) (toNat_encode h)
  have hround := abs_llround_sub_le hnonneg
  have hback : s.decode (s.encode value) - value =
      (llround ((value - s.offset) / s.factor) - (value - s.offset) / s.factor) * s.factor := by
    have hcancel : (value - s.offset) / s.factor * s.factor = value - s.offset :=
      div_mul_cancel₀ _ s.positive.ne'
    rw [decode, decodePhysical, hraw, sub_mul, hcancel]
    linarith
  calc |s.decode (s.encode value) - value|
      = |(llround ((value - s.offset) / s.factor) : ℚ) - (value - s.offset) / s.factor| *
          s.factor := by rw [hback, abs_mul, abs_of_pos s.positive]
    _ ≤ 1 / 2 * s.factor := mul_le_mul_of_nonneg_right hround s.positive.le
    _ = s.factor / 2 := by ring

end Scale

/-! ## Frames of several signals -/

/-- What is read from a frame that was written field by field. -/
theorem extractSignal_of_writes {frame : CanFrame} {writes : List (Field × BitVec 64)} {f : Field}
    {raw : BitVec 64} (hframe : loadLittleEndian frame.data = putAll 0 writes)
    (hdisjoint : (writes.map Prod.fst).Pairwise Field.Disjoint) (hmem : (f, raw) ∈ writes)
    (hfits : f.start + f.length ≤ 64) (hraw : raw.toNat < 2 ^ f.length) :
    (extractSignal frame f.start f.length).toNat = raw.toNat := by
  have hmin : min f.length (64 - f.start) = f.length := by omega
  rw [extractSignal_eq, hframe, get_putAll hdisjoint hmem, hmin]
  exact Nat.mod_eq_of_lt hraw

end MineTeleop.Vcu
