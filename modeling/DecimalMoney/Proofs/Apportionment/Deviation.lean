import DecimalMoney.Apportionment
import DecimalMoney.Proofs.Rounding.Truncated

/-!
# Rounding errors and steps

The sign of a rounding error is read off the truncated quotient, without the exact number.  A step
of one unit in the direction of that sign passes the exact number and ends on its other side, less
than one unit away again.

## Main results

* `DecimalMoney.deviation_round` : the deviation is the sign of the exact number less the rounded
  one.
* `DecimalMoney.abs_step_sub_lt_one` : a step toward the exact number ends less than one unit from
  it.
-/

namespace DecimalMoney

namespace TruncatedQuotient

/-- The rounding error is that of the magnitude, with the sign of the quotient. -/
theorem value_sub_round {q : TruncatedQuotient} (h : q.remainder < q.divisor)
    (mode : RoundingMode) : q.value - mode.round q.value =
      signFactor q.negative * (q.magnitude - q.roundedMagnitude mode) := by
  rw [← signed_roundedMagnitude h, cast_signed, value, mul_sub]

/-- The fraction of an inexact quotient lies strictly between zero and one. -/
theorem fraction_mem_Ioo {q : TruncatedQuotient} (h : q.remainder < q.divisor)
    (inexact : q.remainder ≠ 0) : (q.remainder / q.divisor : ℚ) ∈ Set.Ioo 0 1 := by
  have hremainder : (0 : ℚ) < q.remainder := by exact_mod_cast Nat.pos_of_ne_zero inexact
  have hdivisor : (q.remainder : ℚ) < q.divisor := by exact_mod_cast h
  exact ⟨div_pos hremainder (hremainder.trans hdivisor),
    (div_lt_one (hremainder.trans hdivisor)).2 hdivisor⟩

end TruncatedQuotient

open TruncatedQuotient

/-- **The deviation is the sign of the exact number less the rounded one.** -/
theorem deviation_round {q : TruncatedQuotient} (h : q.remainder < q.divisor)
    (mode : RoundingMode) :
    deviation q (mode.round q.value) = (SignType.sign (q.value - mode.round q.value) : Int) := by
  by_cases exact : q.remainder = 0
  · obtain ⟨n, hn⟩ := Int.fract_eq_zero_iff.1 ((fract_value_eq_zero_iff h).2 exact)
    rw [deviation, if_pos exact, ← hn, RoundingMode.round_intCast, sub_self, sign_zero]
    rfl
  obtain ⟨positive, small⟩ := fraction_mem_Ioo h exact
  have hnatAbs : (mode.round q.value).natAbs = q.roundedMagnitude mode := by
    rw [← signed_roundedMagnitude h, natAbs_signed]
  have hfactor : (SignType.sign (signFactor q.negative) : Int) = if q.negative then -1 else 1 := by
    cases q.negative <;> simp [signFactor]
  rw [value_sub_round h, sign_mul, SignType.coe_mul, hfactor, deviation, if_neg exact, hnatAbs]
  -- the magnitude stays below the exact one or moves beyond it
  rcases q.roundedMagnitude_eq mode with kept | moved
  · have below : 0 < q.magnitude - q.roundedMagnitude mode := by
      rw [magnitude, kept]
      linarith
    rw [if_pos kept, sign_pos below]
    simp
  · have beyond : q.magnitude - q.roundedMagnitude mode < 0 := by
      rw [magnitude, moved]
      push_cast
      linarith
    rw [if_neg (by omega), sign_neg beyond]
    simp

/-- **A step toward the exact number ends less than one unit from it.** -/
theorem abs_step_sub_lt_one {q : TruncatedQuotient} (h : q.remainder < q.divisor)
    {mode : RoundingMode} {step : Int} (unit : step * step = 1)
    (toward : 0 < deviation q (mode.round q.value) * step) :
    |((mode.round q.value + step : Int) : ℚ) - q.value| < 1 := by
  have near := abs_lt.1 (mode.abs_round_sub_lt_one q.value)
  rw [deviation_round h] at toward
  rw [abs_lt]
  push_cast
  rcases lt_trichotomy (q.value - mode.round q.value) 0 with below | equal | above
  · rw [sign_neg below] at toward
    obtain rfl : step = -1 := by
      rcases mul_self_eq_one_iff.1 unit with rfl | rfl
      · simp at toward
      · rfl
    push_cast
    constructor <;> linarith
  · simp [equal] at toward
  · rw [sign_pos above] at toward
    obtain rfl : step = 1 := by
      rcases mul_self_eq_one_iff.1 unit with rfl | rfl
      · rfl
      · simp at toward
    push_cast
    constructor <;> linarith

end DecimalMoney
