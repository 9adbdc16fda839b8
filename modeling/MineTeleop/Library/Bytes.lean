import Mathlib.Data.Fintype.Basic
import Mathlib.Data.List.Basic
import Mathlib.Tactic.Ring

/-!
# Bytes on a wire

Numbers of a fixed width with the most significant byte first, and bytes under a repeated key.
Proved here:

* `ofBigEndian_bigEndian`, `bigEndian_ofBigEndian`: either way round;
* `masked_masked`: a key that is applied twice is gone.
-/

namespace MineTeleop.Bytes

/-- What holds of 256 bytes holds of all. -/
theorem forall_byte {p : UInt8 → Prop} (h : ∀ i : Fin 256, p ⟨⟨i⟩⟩) (byte : UInt8) : p byte :=
  h byte.toFin

/-! ## Numbers -/

/-- The last `width` bytes of `n`, the most significant one first. -/
def bigEndian : ℕ → ℕ → List UInt8
  | 0, _ => []
  | width + 1, n => UInt8.ofNat (n >>> (8 * width)) :: bigEndian width n

def ofBigEndian (bytes : List UInt8) : ℕ := bytes.foldl (fun n byte => n * 256 + byte.toNat) 0

@[simp] theorem length_bigEndian (width n : ℕ) : (bigEndian width n).length = width := by
  induction width with
  | zero => rfl
  | succ width ih => rw [bigEndian, List.length_cons, ih]

theorem foldl_bigEndian (bytes : List UInt8) (n : ℕ) :
    bytes.foldl (fun n byte => n * 256 + byte.toNat) n =
      n * 256 ^ bytes.length + ofBigEndian bytes := by
  unfold ofBigEndian
  induction bytes generalizing n with
  | nil => simp
  | cons byte bytes ih =>
    rw [List.foldl_cons, List.foldl_cons, ih, ih (0 * 256 + byte.toNat), List.length_cons]
    ring

theorem ofBigEndian_cons (byte : UInt8) (bytes : List UInt8) :
    ofBigEndian (byte :: bytes) = byte.toNat * 256 ^ bytes.length + ofBigEndian bytes := by
  rw [ofBigEndian, List.foldl_cons, foldl_bigEndian]
  ring

theorem ofBigEndian_lt (bytes : List UInt8) : ofBigEndian bytes < 256 ^ bytes.length := by
  induction bytes with
  | nil => exact Nat.one_pos
  | cons byte bytes ih =>
    have hbyte : byte.toNat + 1 ≤ 256 := byte.toNat_lt
    calc ofBigEndian (byte :: bytes)
        = byte.toNat * 256 ^ bytes.length + ofBigEndian bytes := ofBigEndian_cons byte bytes
      _ < byte.toNat * 256 ^ bytes.length + 256 ^ bytes.length := by omega
      _ = (byte.toNat + 1) * 256 ^ bytes.length := by ring
      _ ≤ 256 * 256 ^ bytes.length := Nat.mul_le_mul_right _ hbyte
      _ = 256 ^ (byte :: bytes).length := by rw [List.length_cons, pow_succ, mul_comm]

theorem shiftRight_bytes (n width : ℕ) : n >>> (8 * width) = n / 256 ^ width := by
  rw [Nat.shiftRight_eq_div_pow, pow_mul]
  rfl

theorem ofBigEndian_bigEndian (width n : ℕ) : ofBigEndian (bigEndian width n) = n % 256 ^ width := by
  induction width with
  | zero => simp [bigEndian, ofBigEndian, Nat.mod_one]
  | succ width ih =>
    have hbyte : (UInt8.ofNat (n >>> (8 * width))).toNat = n / 256 ^ width % 256 := by
      rw [UInt8.toNat_ofNat', shiftRight_bytes]
    rw [bigEndian, ofBigEndian_cons, ih, length_bigEndian, hbyte, pow_succ, Nat.mod_mul]
    ring

theorem bigEndian_add (width m n : ℕ) : bigEndian width (m * 256 ^ width + n) = bigEndian width n := by
  induction width generalizing m with
  | zero => rfl
  | succ width ih =>
    have hpower : 0 < 256 ^ width := Nat.pos_of_neZero _
    have hsplit : m * 256 ^ (width + 1) + n = (m * 256) * 256 ^ width + n := by ring
    rw [bigEndian, bigEndian, hsplit, ih, shiftRight_bytes, shiftRight_bytes, Nat.add_comm,
      Nat.add_mul_div_right _ _ hpower]
    congr 1
    refine UInt8.toNat_inj.mp ?_
    rw [UInt8.toNat_ofNat', UInt8.toNat_ofNat']
    omega

theorem bigEndian_ofBigEndian (bytes : List UInt8) :
    bigEndian bytes.length (ofBigEndian bytes) = bytes := by
  induction bytes with
  | nil => rfl
  | cons byte bytes ih =>
    have hpower : 0 < 256 ^ bytes.length := Nat.pos_of_neZero _
    rw [List.length_cons, bigEndian, ofBigEndian_cons, bigEndian_add, ih, shiftRight_bytes,
      Nat.add_comm, Nat.add_mul_div_right _ _ hpower, Nat.div_eq_of_lt (ofBigEndian_lt bytes),
      Nat.zero_add, UInt8.ofNat_toNat]

/-! ## Keys -/

variable {n : ℕ} [NeZero n]

/-- Every byte under the byte of the key whose turn it is. -/
def masked (key : Fin n → UInt8) (bytes : List UInt8) : List UInt8 :=
  bytes.mapIdx fun i byte => byte ^^^ key (Fin.ofNat n i)

@[simp] theorem length_masked (key : Fin n → UInt8) (bytes : List UInt8) :
    (masked key bytes).length = bytes.length := List.length_mapIdx

@[simp] theorem masked_masked (key : Fin n → UInt8) (bytes : List UInt8) :
    masked key (masked key bytes) = bytes := by
  unfold masked
  rw [List.mapIdx_mapIdx]
  refine List.ext_getElem (by simp) fun i _ _ => ?_
  rw [List.getElem_mapIdx, Function.comp_apply, UInt8.xor_assoc, UInt8.xor_self, UInt8.xor_zero]

end MineTeleop.Bytes
