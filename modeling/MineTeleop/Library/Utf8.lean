import Mathlib.Data.List.Basic

/-!
# UTF-8 byte by byte

`String.utf8EncodeChar` is the shortest encoding of a Unicode scalar value.  Proved here:

* `one_iff`, `two_iff`, `three_iff`, `four_iff`: the bytes that encode some scalar value, by their
  number;
* `encoding_cases`: there are no longer ones.
-/

namespace MineTeleop.Utf8

theorem exists_char {n : ℕ} (h : n.isValidChar) : ∃ c : Char, c.toNat = n :=
  ⟨Char.ofNatAux n h, rfl⟩

theorem char_range (c : Char) :
    c.toNat < 0xd800 ∨ 0xdfff < c.toNat ∧ c.toNat < 0x110000 := c.valid

/-- One to four bytes. -/
theorem encoding_cases (c : Char) :
    (∃ a, String.utf8EncodeChar c = [a]) ∨ (∃ a b, String.utf8EncodeChar c = [a, b]) ∨
      (∃ a b d, String.utf8EncodeChar c = [a, b, d]) ∨
      ∃ a b d e, String.utf8EncodeChar c = [a, b, d, e] := by
  unfold String.utf8EncodeChar
  simp only [Char.toNat_val]
  split
  · exact .inl ⟨_, rfl⟩
  split
  · exact .inr (.inl ⟨_, _, rfl⟩)
  split
  · exact .inr (.inr (.inl ⟨_, _, _, rfl⟩))
  · exact .inr (.inr (.inr ⟨_, _, _, _, rfl⟩))

/-! ## The bytes of one character -/

theorem ofNat_eq_iff {n : ℕ} {byte : UInt8} (h : n < 256) : UInt8.ofNat n = byte ↔ n = byte.toNat := by
  rw [← UInt8.toNat_inj, UInt8.toNat_ofNat', Nat.mod_eq_of_lt h]

theorem eq_one_iff {c : Char} {a : UInt8} :
    String.utf8EncodeChar c = [a] ↔ c.toNat ≤ 0x7f ∧ c.toNat = a.toNat := by
  unfold String.utf8EncodeChar
  simp only [Char.toNat_val]
  split
  · simp only [List.cons.injEq, and_true]
    rw [ofNat_eq_iff (by omega)]
    omega
  split
  · simp; omega
  · split <;> simp <;> omega

theorem eq_two_iff {c : Char} {a b : UInt8} :
    String.utf8EncodeChar c = [a, b] ↔ 0x7f < c.toNat ∧ c.toNat ≤ 0x7ff ∧
      c.toNat / 64 + 0xc0 = a.toNat ∧ c.toNat % 64 + 0x80 = b.toNat := by
  unfold String.utf8EncodeChar
  simp only [Char.toNat_val]
  split
  · simp; omega
  split
  · simp only [List.cons.injEq, and_true]
    rw [ofNat_eq_iff (by omega), ofNat_eq_iff (by omega)]
    omega
  · split <;> simp <;> omega

theorem eq_three_iff {c : Char} {a b d : UInt8} :
    String.utf8EncodeChar c = [a, b, d] ↔ 0x7ff < c.toNat ∧ c.toNat ≤ 0xffff ∧
      c.toNat / 4096 + 0xe0 = a.toNat ∧ c.toNat / 64 % 64 + 0x80 = b.toNat ∧
      c.toNat % 64 + 0x80 = d.toNat := by
  unfold String.utf8EncodeChar
  simp only [Char.toNat_val]
  split
  · simp; omega
  split
  · simp; omega
  split
  · simp only [List.cons.injEq, and_true]
    rw [ofNat_eq_iff (by omega), ofNat_eq_iff (by omega), ofNat_eq_iff (by omega)]
    omega
  · simp; omega

theorem eq_four_iff {c : Char} {a b d e : UInt8} :
    String.utf8EncodeChar c = [a, b, d, e] ↔ 0xffff < c.toNat ∧
      c.toNat / 262144 + 0xf0 = a.toNat ∧ c.toNat / 4096 % 64 + 0x80 = b.toNat ∧
      c.toNat / 64 % 64 + 0x80 = d.toNat ∧ c.toNat % 64 + 0x80 = e.toNat := by
  have hrange := char_range c
  unfold String.utf8EncodeChar
  simp only [Char.toNat_val]
  split
  · simp; omega
  split
  · simp; omega
  split
  · simp; omega
  · simp only [List.cons.injEq, and_true]
    rw [ofNat_eq_iff (by omega), ofNat_eq_iff (by omega), ofNat_eq_iff (by omega),
      ofNat_eq_iff (by omega)]
    omega

/-! ## The bytes of some character -/

theorem one_iff {a : UInt8} : (∃ c, String.utf8EncodeChar c = [a]) ↔ a.toNat ≤ 0x7f := by
  simp only [eq_one_iff]
  constructor
  · rintro ⟨c, hlow, ha⟩
    omega
  · intro h
    obtain ⟨c, hc⟩ := exists_char (n := a.toNat) (by unfold Nat.isValidChar; omega)
    exact ⟨c, by omega, hc⟩

theorem two_iff {a b : UInt8} : (∃ c, String.utf8EncodeChar c = [a, b]) ↔
    0xc2 ≤ a.toNat ∧ a.toNat ≤ 0xdf ∧ 0x80 ≤ b.toNat ∧ b.toNat ≤ 0xbf := by
  simp only [eq_two_iff]
  constructor
  · rintro ⟨c, h⟩
    omega
  · intro h
    obtain ⟨c, hc⟩ := exists_char (n := (a.toNat - 0xc0) * 64 + (b.toNat - 0x80))
      (by unfold Nat.isValidChar; omega)
    exact ⟨c, by omega⟩

/-- The second byte keeps what would fit into two bytes out, and the surrogates. -/
theorem three_iff {a b d : UInt8} : (∃ c, String.utf8EncodeChar c = [a, b, d]) ↔
    0xe0 ≤ a.toNat ∧ a.toNat ≤ 0xef ∧ 0x80 ≤ b.toNat ∧ b.toNat ≤ 0xbf ∧
      (a.toNat = 0xe0 → 0xa0 ≤ b.toNat) ∧ (a.toNat = 0xed → b.toNat ≤ 0x9f) ∧
      0x80 ≤ d.toNat ∧ d.toNat ≤ 0xbf := by
  simp only [eq_three_iff]
  constructor
  · rintro ⟨c, h⟩
    have hrange := char_range c
    omega
  · intro h
    obtain ⟨c, hc⟩ := exists_char
      (n := (a.toNat - 0xe0) * 4096 + (b.toNat - 0x80) * 64 + (d.toNat - 0x80))
      (by unfold Nat.isValidChar; omega)
    exact ⟨c, by omega⟩

/-- The second byte keeps what would fit into three bytes out, and what is above U+10FFFF. -/
theorem four_iff {a b d e : UInt8} : (∃ c, String.utf8EncodeChar c = [a, b, d, e]) ↔
    0xf0 ≤ a.toNat ∧ a.toNat ≤ 0xf4 ∧ 0x80 ≤ b.toNat ∧ b.toNat ≤ 0xbf ∧
      (a.toNat = 0xf0 → 0x90 ≤ b.toNat) ∧ (a.toNat = 0xf4 → b.toNat ≤ 0x8f) ∧
      0x80 ≤ d.toNat ∧ d.toNat ≤ 0xbf ∧ 0x80 ≤ e.toNat ∧ e.toNat ≤ 0xbf := by
  simp only [eq_four_iff]
  constructor
  · rintro ⟨c, h⟩
    have hrange := char_range c
    omega
  · intro h
    obtain ⟨c, hc⟩ := exists_char (n := (a.toNat - 0xf0) * 262144 + (b.toNat - 0x80) * 4096 +
        (d.toNat - 0x80) * 64 + (e.toNat - 0x80))
      (by unfold Nat.isValidChar; omega)
    exact ⟨c, by omega⟩

end MineTeleop.Utf8
