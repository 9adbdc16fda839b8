import Mathlib.Data.List.Pairwise
import Mathlib.Data.Nat.Bitwise
import Mathlib.Tactic.Common

/-!
# Bit fields of a word

A field is a run of bits of a word of any width; reading and writing one are the get and the put
of a lens. A field may stick out of the word, where its high bits are lost.

Proved here:

* `getLsbD_put`: a written word bit by bit;
* `toNat_get_put`, `put_get`, `put_put`: the laws of the lens;
* `get_put_of_disjoint`, `get_putAll`: fields that do not overlap do not disturb each other.
-/

namespace MineTeleop.BitFields

structure Field where
  start : ℕ
  length : ℕ
  deriving DecidableEq

namespace Field

def Covers (f : Field) (i : ℕ) : Prop := f.start ≤ i ∧ i < f.start + f.length

def Disjoint (f g : Field) : Prop :=
  f.start + f.length ≤ g.start ∨ g.start + g.length ≤ f.start

instance (f : Field) (i : ℕ) : Decidable (f.Covers i) := inferInstanceAs (Decidable (_ ∧ _))
instance (f g : Field) : Decidable (f.Disjoint g) := inferInstanceAs (Decidable (_ ∨ _))

theorem Disjoint.symm {f g : Field} (h : f.Disjoint g) : g.Disjoint f := Or.symm h

theorem Disjoint.not_covers {f g : Field} (h : f.Disjoint g) {i : ℕ} (hi : g.Covers i) :
    ¬f.Covers i := by
  unfold Covers at *
  rcases h with h | h <;> omega

end Field

variable {w : ℕ}

/-- The low bits. -/
def lowMask (w length : ℕ) : BitVec w := BitVec.ofNat w (2 ^ length - 1)

def get (f : Field) (word : BitVec w) : BitVec w := (word >>> f.start) &&& lowMask w f.length

def put (f : Field) (word raw : BitVec w) : BitVec w :=
  (word &&& ~~~(lowMask w f.length <<< f.start)) |||
    ((raw <<< f.start) &&& (lowMask w f.length <<< f.start))

/-- Write one field after the other. -/
def putAll (word : BitVec w) (writes : List (Field × BitVec w)) : BitVec w :=
  writes.foldl (fun word write => put write.1 word write.2) word

/-! ## Bit by bit -/

theorem getLsbD_lowMask (length i : ℕ) :
    (lowMask w length).getLsbD i = (decide (i < w) && decide (i < length)) := by
  simp [lowMask, BitVec.getLsbD_ofNat, Nat.testBit_two_pow_sub_one]

theorem getLsbD_get (f : Field) (word : BitVec w) (i : ℕ) :
    (get f word).getLsbD i = (decide (i < f.length) && word.getLsbD (f.start + i)) := by
  simp only [get, BitVec.getLsbD_and, BitVec.getLsbD_ushiftRight, getLsbD_lowMask]
  by_cases hw : i < w
  · simp [hw, Bool.and_comm]
  · have hbit : word.getLsbD (f.start + i) = false := BitVec.getLsbD_of_ge _ _ (by omega)
    simp [hbit]

theorem getLsbD_put (f : Field) (word raw : BitVec w) (i : ℕ) :
    (put f word raw).getLsbD i =
      if f.Covers i then decide (i < w) && raw.getLsbD (i - f.start) else word.getLsbD i := by
  simp only [put, BitVec.getLsbD_or, BitVec.getLsbD_and, BitVec.getLsbD_not,
    BitVec.getLsbD_shiftLeft, getLsbD_lowMask, Field.Covers]
  by_cases hw : i < w
  · by_cases hstart : f.start ≤ i
    · by_cases hlength : i < f.start + f.length
      · have hinside : i - f.start < f.length := by omega
        simp [hw, hstart, hlength, hinside, show i - f.start < w by omega,
          show ¬i < f.start by omega]
      · have houtside : ¬i - f.start < f.length := by omega
        simp [hw, hlength, houtside]
    · simp [hw, hstart, show i < f.start by omega]
  · have hbit : word.getLsbD i = false := BitVec.getLsbD_of_ge _ _ (by omega)
    simp [hw, hbit]

/-! ## The laws of the lens -/

/-- What is read back is what was written, up to the length and the end of the word. -/
theorem get_put (f : Field) (word raw : BitVec w) :
    get f (put f word raw) = raw &&& lowMask w (min f.length (w - f.start)) := by
  apply BitVec.eq_of_getLsbD_eq
  intro i hi
  simp only [getLsbD_get, getLsbD_put, BitVec.getLsbD_and, getLsbD_lowMask, Field.Covers]
  by_cases hlength : i < f.length
  · by_cases hend : f.start + i < w
    · have hinside : i < min f.length (w - f.start) := by omega
      simp [hlength, hend, hi, hinside]
    · have houtside : ¬i < min f.length (w - f.start) := by omega
      simp [hlength, hend, houtside]
  · have houtside : ¬i < min f.length (w - f.start) := by omega
    simp [hlength, houtside]

theorem toNat_and_lowMask (raw : BitVec w) (length : ℕ) :
    (raw &&& lowMask w length).toNat = raw.toNat % 2 ^ length := by
  apply Nat.eq_of_testBit_eq
  intro i
  rw [BitVec.testBit_toNat, BitVec.getLsbD_and, getLsbD_lowMask, Nat.testBit_mod_two_pow,
    BitVec.testBit_toNat]
  by_cases hw : i < w
  · simp [hw, Bool.and_comm]
  · have hbit : raw.getLsbD i = false := BitVec.getLsbD_of_ge _ _ (by omega)
    simp [hbit]

theorem toNat_get_put (f : Field) (word raw : BitVec w) :
    (get f (put f word raw)).toNat = raw.toNat % 2 ^ min f.length (w - f.start) := by
  rw [get_put, toNat_and_lowMask]

theorem put_get (f : Field) (word : BitVec w) : put f word (get f word) = word := by
  apply BitVec.eq_of_getLsbD_eq
  intro i hi
  rw [getLsbD_put]
  split
  · rename_i hcovers
    have hinside : i - f.start < f.length := by
      have := hcovers.1
      have := hcovers.2
      omega
    have hback : f.start + (i - f.start) = i := by
      have := hcovers.1
      omega
    simp [getLsbD_get, hinside, hback, hi]
  · rfl

theorem put_put (f : Field) (word raw raw' : BitVec w) :
    put f (put f word raw) raw' = put f word raw' := by
  apply BitVec.eq_of_getLsbD_eq
  intro i _
  rw [getLsbD_put, getLsbD_put, getLsbD_put]
  split <;> rfl

/-! ## Several fields -/

theorem get_put_of_disjoint {f g : Field} (h : f.Disjoint g) (word raw : BitVec w) :
    get g (put f word raw) = get g word := by
  apply BitVec.eq_of_getLsbD_eq
  intro i _
  rw [getLsbD_get, getLsbD_get, getLsbD_put]
  by_cases hlength : i < g.length
  · have hno : ¬f.Covers (g.start + i) := h.not_covers ⟨by omega, by omega⟩
    rw [if_neg hno]
  · simp [hlength]

theorem get_putAll_of_disjoint {g : Field} {writes : List (Field × BitVec w)}
    (h : ∀ write ∈ writes, write.1.Disjoint g) (word : BitVec w) :
    get g (putAll word writes) = get g word := by
  induction writes generalizing word with
  | nil => rfl
  | cons write writes ih =>
    have hrest := ih (fun write' hmem => h write' (List.mem_cons_of_mem _ hmem))
      (put write.1 word write.2)
    exact hrest.trans (get_put_of_disjoint (h write List.mem_cons_self) word write.2)

/-- Of fields that do not overlap each one keeps what was written into it. -/
theorem get_putAll {f : Field} {raw : BitVec w} {writes : List (Field × BitVec w)}
    (hdisjoint : (writes.map Prod.fst).Pairwise Field.Disjoint) (hmem : (f, raw) ∈ writes)
    (word : BitVec w) :
    (get f (putAll word writes)).toNat = raw.toNat % 2 ^ min f.length (w - f.start) := by
  induction writes generalizing word with
  | nil => cases hmem
  | cons write writes ih =>
    rw [List.map_cons, List.pairwise_cons] at hdisjoint
    rcases List.mem_cons.mp hmem with hfirst | hrest
    · have hothers : ∀ write' ∈ writes, write'.1.Disjoint f := fun write' hmem' =>
        (hfirst ▸ hdisjoint.1 write'.1 (List.mem_map_of_mem hmem')).symm
      have hkept := get_putAll_of_disjoint hothers (put write.1 word write.2)
      have hread : (get f (put write.1 word write.2)).toNat =
          raw.toNat % 2 ^ min f.length (w - f.start) := by
        rw [← hfirst]
        exact toNat_get_put f word raw
      exact (congrArg BitVec.toNat hkept).trans hread
    · exact ih hdisjoint.2 hrest (put write.1 word write.2)

end MineTeleop.BitFields
