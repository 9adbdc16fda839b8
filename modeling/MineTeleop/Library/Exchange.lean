import Mathlib.Algebra.Order.Floor.Ring
import Mathlib.Tactic.Linarith

/-!
# Comparing two clocks by a question and its answer

Two clocks run at one speed, `offset` apart, and each shows whole units, rounded down. One asks
the other for the time; of the exchange it knows four stamps. The estimate is half the sum of the
two differences between the clocks, truncated, and the round trip is what the answer took beyond
the answerer's own time.

Proved here, for any offset, instants and delays:

* `Exchange.estimate_le`, `Exchange.le_estimate`: the estimate is off by less than half the round
  trip, rounded up, and one unit;
* `abs_sub_lt_of_estimate`: what is near such an estimate is nearly as good.
-/

namespace MineTeleop

/-- The four readings of an exchange. -/
structure Stamps where
  asked : ℤ
  heard : ℤ
  answered : ℤ
  received : ℤ

namespace Stamps

/-- Truncated, as an integer division is. -/
def estimate (stamps : Stamps) : ℤ :=
  ((stamps.heard - stamps.asked) + (stamps.answered - stamps.received)).tdiv 2

def roundTrip (stamps : Stamps) : ℤ :=
  max 0 (stamps.received - stamps.asked - (stamps.answered - stamps.heard))

/-- Half of an odd sum is rounded towards zero. -/
theorem two_mul_estimate (stamps : Stamps) :
    let sum := (stamps.heard - stamps.asked) + (stamps.answered - stamps.received)
    sum - sum % 2 ≤ 2 * stamps.estimate ∧ 2 * stamps.estimate ≤ sum + sum % 2 := by
  intro sum
  have h : stamps.estimate = sum / 2 + if 0 ≤ sum ∨ 2 ∣ sum then 0 else 1 :=
    Int.tdiv_eq_ediv
  split at h <;> omega

theorem estimate_le (stamps : Stamps) {high : ℤ}
    (hhigh : stamps.answered - stamps.received ≤ high) :
    stamps.estimate ≤ high + (stamps.roundTrip + 1) / 2 := by
  have h := stamps.two_mul_estimate
  unfold roundTrip
  omega

theorem le_estimate (stamps : Stamps) {low : ℤ} (hlow : low ≤ stamps.heard - stamps.asked) :
    low - (stamps.roundTrip + 1) / 2 ≤ stamps.estimate := by
  have h := stamps.two_mul_estimate
  unfold roundTrip
  omega

end Stamps

variable {R : Type*} [Field R] [LinearOrder R] [IsStrictOrderedRing R] [FloorRing R]

variable (R) in
/-- The instants of an exchange on the asking clock: no message arrives before it was sent, and
no answer is given before the question. -/
structure Exchange where
  sent : R
  arrived : R
  answered : R
  received : R
  outward : sent ≤ arrived
  answering : arrived ≤ answered
  homeward : answered ≤ received

namespace Exchange
variable (exchange : Exchange R) (offset : R)

def stamps : Stamps where
  asked := ⌊exchange.sent⌋
  heard := ⌊exchange.arrived + offset⌋
  answered := ⌊exchange.answered + offset⌋
  received := ⌊exchange.received⌋

theorem heard_le_answered : (exchange.stamps offset).heard ≤ (exchange.stamps offset).answered :=
  Int.floor_mono (add_le_add exchange.answering le_rfl)

theorem floor_le_outward :
    ⌊offset⌋ ≤ (exchange.stamps offset).heard - (exchange.stamps offset).asked := by
  have h : ⌊exchange.sent⌋ + ⌊offset⌋ ≤ ⌊exchange.arrived + offset⌋ := by
    refine (Int.le_floor_add _ _).trans (Int.floor_mono ?_)
    exact add_le_add exchange.outward le_rfl
  simp only [stamps]
  omega

theorem homeward_le_ceil :
    (exchange.stamps offset).answered - (exchange.stamps offset).received ≤ ⌈offset⌉ := by
  have h : ⌊exchange.answered + offset⌋ ≤ ⌊exchange.received⌋ + ⌈offset⌉ := by
    rw [← Int.floor_add_intCast]
    exact Int.floor_mono (add_le_add exchange.homeward (Int.le_ceil offset))
  simp only [stamps]
  omega

theorem estimate_le : (exchange.stamps offset).estimate ≤
    ⌈offset⌉ + ((exchange.stamps offset).roundTrip + 1) / 2 :=
  Stamps.estimate_le _ (exchange.homeward_le_ceil offset)

theorem le_estimate : ⌊offset⌋ - ((exchange.stamps offset).roundTrip + 1) / 2 ≤
    (exchange.stamps offset).estimate :=
  Stamps.le_estimate _ (exchange.floor_le_outward offset)

/-- What differs by `spread` from an estimate. -/
theorem abs_sub_lt_of_estimate {selected spread : ℤ}
    (h : |(exchange.stamps offset).estimate - selected| ≤ spread) :
    |(selected : R) - offset| <
      (((exchange.stamps offset).roundTrip + 1) / 2 + spread + 1 : ℤ) := by
  have hle := exchange.estimate_le offset
  have hge := exchange.le_estimate offset
  obtain ⟨hlow, hhigh⟩ := abs_le.mp h
  have hceil := Int.ceil_lt_add_one offset
  have hfloor := Int.sub_one_lt_floor offset
  have hselected : (selected : R) ≤
      ((⌈offset⌉ + ((exchange.stamps offset).roundTrip + 1) / 2 + spread : ℤ) : R) :=
    Int.cast_le.mpr (by omega)
  have hselected' : ((⌊offset⌋ - ((exchange.stamps offset).roundTrip + 1) / 2 - spread : ℤ) : R) ≤
      selected :=
    Int.cast_le.mpr (by omega)
  simp only [Int.cast_add, Int.cast_sub, Int.cast_one] at hselected hselected' ⊢
  rw [abs_lt]
  constructor <;> linarith

end Exchange

end MineTeleop
