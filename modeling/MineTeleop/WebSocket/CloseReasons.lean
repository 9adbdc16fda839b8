import MineTeleop.Library.Utf8
import MineTeleop.WebSocket.Payloads

/-!
# The UTF-8 of a close reason

`valid_utf8` goes over the bytes by their index.  Proved here:

* `validUtf8At_eq`: no read is past the end, and the answer is that of the bytes from there on;
* `validUtf8_iff`: what it accepts are the encodings of Unicode scalar values;
* `validUtf8_wellFormed`: both, for every string.
-/

namespace MineTeleop.WebSocket

/-! ## The loop of the source -/

/-- The loop from `index` on.  A read past the end is `none`. -/
def validUtf8At (value : List UInt8) (index : ℕ) : Option Bool :=
  if index < value.length then do
    let first ← value[index]?
    if first ≤ 0x7f then validUtf8At value (index + 1)
    else if 0xc2 ≤ first ∧ first ≤ 0xdf then
      if value.length ≤ index + 1 then some false
      else
        let second ← value[index + 1]?
        if continuation second then validUtf8At value (index + 2) else some false
    else if 0xe0 ≤ first ∧ first ≤ 0xef then
      if value.length ≤ index + 2 then some false
      else
        let second ← value[index + 1]?
        let third ← value[index + 2]?
        if !continuation third ||
            decide (first = 0xe0 ∧ (second < 0xa0 ∨ 0xbf < second)) ||
            decide (first = 0xed ∧ (second < 0x80 ∨ 0x9f < second)) ||
            (decide (first ≠ 0xe0 ∧ first ≠ 0xed) && !continuation second) then some false
        else validUtf8At value (index + 3)
    else if 0xf0 ≤ first ∧ first ≤ 0xf4 then
      if value.length ≤ index + 3 then some false
      else
        let second ← value[index + 1]?
        let third ← value[index + 2]?
        let fourth ← value[index + 3]?
        if !continuation third || !continuation fourth ||
            decide (first = 0xf0 ∧ (second < 0x90 ∨ 0xbf < second)) ||
            decide (first = 0xf4 ∧ (second < 0x80 ∨ 0x8f < second)) ||
            (decide (first ≠ 0xf0 ∧ first ≠ 0xf4) && !continuation second) then some false
        else validUtf8At value (index + 4)
    else some false
  else some true
termination_by value.length - index

theorem refused_three (first second third : UInt8) :
    (!continuation third ||
      decide (first = 0xe0 ∧ (second < 0xa0 ∨ 0xbf < second)) ||
      decide (first = 0xed ∧ (second < 0x80 ∨ 0x9f < second)) ||
      (decide (first ≠ 0xe0 ∧ first ≠ 0xed) && !continuation second)) =
    !validThree first second third := by
  unfold validThree
  cases continuation third
  · rfl
  by_cases he0 : first = 0xe0
  · subst he0
    by_cases hlow : second < 0xa0 <;> by_cases hhigh : 0xbf < second <;> simp_all [← UInt8.not_lt]
  by_cases hed : first = 0xed
  · subst hed
    by_cases hlow : second < 0x80 <;> by_cases hhigh : 0x9f < second <;> simp_all [← UInt8.not_lt]
  · simp [he0, hed]

theorem refused_four (first second third fourth : UInt8) :
    (!continuation third || !continuation fourth ||
      decide (first = 0xf0 ∧ (second < 0x90 ∨ 0xbf < second)) ||
      decide (first = 0xf4 ∧ (second < 0x80 ∨ 0x8f < second)) ||
      (decide (first ≠ 0xf0 ∧ first ≠ 0xf4) && !continuation second)) =
    !validFour first second third fourth := by
  unfold validFour
  cases continuation third
  · rfl
  cases continuation fourth
  · rfl
  by_cases hf0 : first = 0xf0
  · subst hf0
    by_cases hlow : second < 0x90 <;> by_cases hhigh : 0xbf < second <;> simp_all [← UInt8.not_lt]
  by_cases hf4 : first = 0xf4
  · subst hf4
    by_cases hlow : second < 0x80 <;> by_cases hhigh : 0x8f < second <;> simp_all [← UInt8.not_lt]
  · simp [hf0, hf4]

theorem read_first (before rest : List UInt8) (first : UInt8) :
    (before ++ first :: rest)[before.length]? = some first := by simp

/-- A read behind the first byte of what is left. -/
theorem read_behind (before rest : List UInt8) (offset : ℕ) :
    (before ++ rest)[before.length + offset]? = rest[offset]? := by
  rw [List.getElem?_append_right (Nat.le_add_right _ _), Nat.add_sub_cancel_left]

theorem past_end (before rest : List UInt8) (offset : ℕ) :
    (before ++ rest).length ≤ before.length + offset ↔ rest.length ≤ offset := by
  rw [List.length_append]
  omega

/-- The next turn has the bytes of this one before it. -/
theorem validUtf8At_next (before bytes rest : List UInt8) :
    validUtf8At (before ++ (bytes ++ rest)) (before.length + bytes.length) =
      validUtf8At ((before ++ bytes) ++ rest) (before ++ bytes).length := by
  rw [List.append_assoc, List.length_append]

theorem validUtf8At_after (before rest : List UInt8) :
    validUtf8At (before ++ rest) before.length = some (validUtf8 rest) := by
  fun_induction validUtf8 rest generalizing before with
  | case1 => rw [validUtf8At, if_neg (by simp)]
  | case2 first rest hone ih =>
    rw [validUtf8At, if_pos (by simp)]
    simp only [read_first, Option.bind_eq_bind, Option.bind_some, if_pos hone]
    exact (validUtf8At_next before [first] rest).trans (ih _)
  | case3 first hone htwo second rest ih =>
    rw [Bool.and_eq_true, decide_eq_true_iff, decide_eq_true_iff] at htwo
    rw [validUtf8At, if_pos (by simp)]
    simp only [read_first, read_behind, past_end, List.getElem?_cons_succ, List.getElem?_cons_zero,
      Option.bind_eq_bind, Option.bind_some, if_neg hone, if_pos htwo]
    rw [if_neg (by simp)]
    cases continuation second with
    | false => rfl
    | true => exact (validUtf8At_next before [first, second] rest).trans (ih _)
  | case4 first rest hone htwo hrest =>
    rw [Bool.and_eq_true, decide_eq_true_iff, decide_eq_true_iff] at htwo
    rw [validUtf8At, if_pos (by simp)]
    simp only [read_first, past_end, Option.bind_eq_bind, Option.bind_some, if_neg hone, if_pos htwo]
    cases rest with
    | nil => exact if_pos (by simp)
    | cons second behind => exact (hrest second behind rfl).elim
  | case5 first hone htwo hthree second third rest ih =>
    rw [Bool.and_eq_true, decide_eq_true_iff, decide_eq_true_iff] at htwo hthree
    rw [validUtf8At, if_pos (by simp)]
    simp only [read_first, read_behind, past_end, List.getElem?_cons_succ, List.getElem?_cons_zero,
      Option.bind_eq_bind, Option.bind_some, if_neg hone, if_neg htwo, if_pos hthree, refused_three]
    rw [if_neg (by simp)]
    cases validThree first second third with
    | false => rfl
    | true => exact (validUtf8At_next before [first, second, third] rest).trans (ih _)
  | case6 first rest hone htwo hthree hrest =>
    rw [Bool.and_eq_true, decide_eq_true_iff, decide_eq_true_iff] at htwo hthree
    rw [validUtf8At, if_pos (by simp)]
    simp only [read_first, past_end, Option.bind_eq_bind, Option.bind_some, if_neg hone, if_neg htwo,
      if_pos hthree]
    rcases rest with _ | ⟨second, _ | ⟨third, behind⟩⟩
    · exact if_pos (by simp)
    · exact if_pos (by simp)
    · exact (hrest second third behind rfl).elim
  | case7 first hone htwo hthree hfour second third fourth rest ih =>
    rw [Bool.and_eq_true, decide_eq_true_iff, decide_eq_true_iff] at htwo hthree hfour
    rw [validUtf8At, if_pos (by simp)]
    simp only [read_first, read_behind, past_end, List.getElem?_cons_succ, List.getElem?_cons_zero,
      Option.bind_eq_bind, Option.bind_some, if_neg hone, if_neg htwo, if_neg hthree, if_pos hfour,
      refused_four]
    rw [if_neg (by simp)]
    cases validFour first second third fourth with
    | false => rfl
    | true => exact (validUtf8At_next before [first, second, third, fourth] rest).trans (ih _)
  | case8 first rest hone htwo hthree hfour hrest =>
    rw [Bool.and_eq_true, decide_eq_true_iff, decide_eq_true_iff] at htwo hthree hfour
    rw [validUtf8At, if_pos (by simp)]
    simp only [read_first, past_end, Option.bind_eq_bind, Option.bind_some, if_neg hone, if_neg htwo,
      if_neg hthree, if_pos hfour]
    rcases rest with _ | ⟨second, _ | ⟨third, _ | ⟨fourth, behind⟩⟩⟩
    · exact if_pos (by simp)
    · exact if_pos (by simp)
    · exact if_pos (by simp)
    · exact (hrest second third fourth behind rfl).elim
  | case9 first rest hone htwo hthree hfour =>
    rw [Bool.and_eq_true, decide_eq_true_iff, decide_eq_true_iff] at htwo hthree hfour
    rw [validUtf8At, if_pos (by simp)]
    simp only [read_first, Option.bind_eq_bind, Option.bind_some, if_neg hone, if_neg htwo,
      if_neg hthree, if_neg hfour]

/-! ## What is accepted -/

theorem continuation_iff (byte : UInt8) :
    continuation byte = true ↔ 0x80 ≤ byte.toNat ∧ byte.toNat ≤ 0xbf := by
  simp [continuation, UInt8.le_iff_toNat_le]

theorem validThree_iff (first second third : UInt8) (h : 0xe0 ≤ first.toNat ∧ first.toNat ≤ 0xef) :
    validThree first second third = true ↔
      ∃ c, String.utf8EncodeChar c = [first, second, third] := by
  rw [Utf8.three_iff, validThree, Bool.and_eq_true, continuation_iff]
  split
  · rename_i he0
    subst he0
    simp [UInt8.le_iff_toNat_le]
    omega
  split
  · rename_i hed
    subst hed
    simp [UInt8.le_iff_toNat_le]
    omega
  · rename_i he0 hed
    rw [← UInt8.toNat_inj] at he0 hed
    rw [continuation_iff]
    simp at he0 hed
    omega

theorem validFour_iff (first second third fourth : UInt8)
    (h : 0xf0 ≤ first.toNat ∧ first.toNat ≤ 0xf4) :
    validFour first second third fourth = true ↔
      ∃ c, String.utf8EncodeChar c = [first, second, third, fourth] := by
  rw [Utf8.four_iff, validFour, Bool.and_eq_true, Bool.and_eq_true, continuation_iff, continuation_iff]
  split
  · rename_i hf0
    subst hf0
    simp [UInt8.le_iff_toNat_le]
    omega
  split
  · rename_i hf4
    subst hf4
    simp [UInt8.le_iff_toNat_le]
    omega
  · rename_i hf0 hf4
    rw [← UInt8.toNat_inj] at hf0 hf4
    rw [continuation_iff]
    simp at hf0 hf4
    omega

theorem validUtf8_one {first : UInt8} (h : first.toNat ≤ 0x7f) (rest : List UInt8) :
    validUtf8 (first :: rest) = validUtf8 rest := by
  rw [validUtf8.eq_def]
  dsimp only
  rw [if_pos (UInt8.le_iff_toNat_le.mpr h)]

theorem validUtf8_two {first : UInt8} (h : 0xc2 ≤ first.toNat ∧ first.toNat ≤ 0xdf) (second : UInt8)
    (rest : List UInt8) :
    validUtf8 (first :: second :: rest) = (continuation second && validUtf8 rest) := by
  rw [validUtf8.eq_def]
  dsimp only
  rw [if_neg, if_pos]
  · simpa [UInt8.le_iff_toNat_le] using h
  · simp [UInt8.lt_iff_toNat_lt]
    omega

theorem validUtf8_three {first : UInt8} (h : 0xe0 ≤ first.toNat ∧ first.toNat ≤ 0xef)
    (second third : UInt8) (rest : List UInt8) :
    validUtf8 (first :: second :: third :: rest) =
      (validThree first second third && validUtf8 rest) := by
  rw [validUtf8.eq_def]
  dsimp only
  rw [if_neg, if_neg, if_pos]
  · simpa [UInt8.le_iff_toNat_le] using h
  · simp [UInt8.le_iff_toNat_le]
    omega
  · simp [UInt8.lt_iff_toNat_lt]
    omega

theorem validUtf8_four {first : UInt8} (h : 0xf0 ≤ first.toNat ∧ first.toNat ≤ 0xf4)
    (second third fourth : UInt8) (rest : List UInt8) :
    validUtf8 (first :: second :: third :: fourth :: rest) =
      (validFour first second third fourth && validUtf8 rest) := by
  rw [validUtf8.eq_def]
  dsimp only
  rw [if_neg, if_neg, if_neg, if_pos]
  · simpa [UInt8.le_iff_toNat_le] using h
  · simp [UInt8.le_iff_toNat_le]
    omega
  · simp [UInt8.le_iff_toNat_le]
    omega
  · simp [UInt8.lt_iff_toNat_lt]
    omega

theorem validUtf8_encoding (c : Char) (rest : List UInt8) :
    validUtf8 (String.utf8EncodeChar c ++ rest) = validUtf8 rest := by
  obtain ⟨a, h⟩ | ⟨a, b, h⟩ | ⟨a, b, d, h⟩ | ⟨a, b, d, e, h⟩ := Utf8.encoding_cases c
  · have hone := Utf8.one_iff.mp ⟨c, h⟩
    rw [h]
    exact validUtf8_one hone rest
  · have htwo := Utf8.two_iff.mp ⟨c, h⟩
    rw [h]
    refine (validUtf8_two ⟨htwo.1, htwo.2.1⟩ b rest).trans ?_
    rw [(continuation_iff b).mpr htwo.2.2, Bool.true_and]
  · have hthree := Utf8.three_iff.mp ⟨c, h⟩
    have hlead := And.intro hthree.1 hthree.2.1
    rw [h]
    refine (validUtf8_three hlead b d rest).trans ?_
    rw [(validThree_iff a b d hlead).mpr ⟨c, h⟩, Bool.true_and]
  · have hfour := Utf8.four_iff.mp ⟨c, h⟩
    have hlead := And.intro hfour.1 hfour.2.1
    rw [h]
    refine (validUtf8_four hlead b d e rest).trans ?_
    rw [(validFour_iff a b d e hlead).mpr ⟨c, h⟩, Bool.true_and]

/-- The bytes of zero or more scalar values, one after the other. -/
def WellFormedUtf8 (bytes : List UInt8) : Prop :=
  ∃ chars : List Char, bytes = chars.flatMap String.utf8EncodeChar

theorem validUtf8_of_wellFormed {bytes : List UInt8} (h : WellFormedUtf8 bytes) :
    validUtf8 bytes = true := by
  obtain ⟨chars, rfl⟩ := h
  induction chars with
  | nil => rfl
  | cons c chars ih => rw [List.flatMap_cons, validUtf8_encoding, ih]

theorem WellFormedUtf8.cons {c : Char} {bytes rest : List UInt8} (h : WellFormedUtf8 rest)
    (hbytes : String.utf8EncodeChar c = bytes) : WellFormedUtf8 (bytes ++ rest) := by
  obtain ⟨chars, rfl⟩ := h
  exact ⟨c :: chars, by rw [List.flatMap_cons, hbytes]⟩

theorem wellFormed_of_validUtf8 {bytes : List UInt8} (h : validUtf8 bytes = true) :
    WellFormedUtf8 bytes := by
  have hlead : ∀ {low high first : UInt8}, (decide (low ≤ first) && decide (first ≤ high)) = true →
      low.toNat ≤ first.toNat ∧ first.toNat ≤ high.toNat := by
    intro low high first hfirst
    rw [Bool.and_eq_true, decide_eq_true_iff, decide_eq_true_iff] at hfirst
    exact ⟨UInt8.le_iff_toNat_le.mp hfirst.1, UInt8.le_iff_toNat_le.mp hfirst.2⟩
  fun_induction validUtf8 bytes with
  | case1 => exact ⟨[], rfl⟩
  | case2 first rest hone ih =>
    obtain ⟨c, hc⟩ := Utf8.one_iff.mpr (UInt8.le_iff_toNat_le.mp hone)
    exact (ih h).cons hc
  | case3 first hone htwo second rest ih =>
    rw [Bool.and_eq_true, continuation_iff] at h
    obtain ⟨c, hc⟩ := Utf8.two_iff.mpr ⟨(hlead htwo).1, (hlead htwo).2, h.1⟩
    exact (ih h.2).cons hc
  | case5 first hone htwo hthree second third rest ih =>
    rw [Bool.and_eq_true, validThree_iff _ _ _ (hlead hthree)] at h
    obtain ⟨⟨c, hc⟩, hrest⟩ := h
    exact (ih hrest).cons hc
  | case7 first hone htwo hthree hfour second third fourth rest ih =>
    rw [Bool.and_eq_true, validFour_iff _ _ _ _ (hlead hfour)] at h
    obtain ⟨⟨c, hc⟩, hrest⟩ := h
    exact (ih hrest).cons hc
  | case4 | case6 | case8 | case9 => cases h

theorem validUtf8_iff (bytes : List UInt8) : validUtf8 bytes = true ↔ WellFormedUtf8 bytes :=
  ⟨wellFormed_of_validUtf8, validUtf8_of_wellFormed⟩

/-- The loop ends without a read past the end, and accepts what is well formed. -/
theorem validUtf8_wellFormed (value : List UInt8) :
    validUtf8At value 0 = some (validUtf8 value) ∧
      (validUtf8 value = true ↔
        ∃ chars : List Char, value = chars.flatMap String.utf8EncodeChar) :=
  ⟨validUtf8At_after [] value, validUtf8_iff value⟩

end MineTeleop.WebSocket
