import DecimalMoney.Proofs.Rounding.Exact
import DecimalMoney.Rounding.Division

/-!
# Rounding of truncated quotients

A truncated quotient stands for an exact number: its sign times the whole part and the fraction that
remainder and divisor make.  Its rounding, which looks at the remainder only, is the rounding of
that number.

## Main definitions

* `DecimalMoney.TruncatedQuotient.value` : the exact number.
* `DecimalMoney.TruncatedQuotient.ofRatio` : the truncated quotient of `a * b / d` on integers.

## Main results

* `DecimalMoney.TruncatedQuotient.signed_roundedMagnitude` : the rounded magnitude with its sign is
  the rounding of the exact number.
* `DecimalMoney.TruncatedQuotient.round_eq_roundWord` : so is the result of rounding, with its
  failures.
* `DecimalMoney.TruncatedQuotient.value_ofRatio` : the value of a ratio is the ratio.
-/

namespace DecimalMoney

/-- The factor that a sign stands for. -/
def signFactor (negative : Bool) : ℚ := if negative then -1 else 1

theorem signFactor_ne (p q : Bool) : signFactor (p != q) = signFactor p * signFactor q := by
  cases p <;> cases q <;> simp [signFactor]

theorem signFactor_ne_zero (negative : Bool) : signFactor negative ≠ 0 := by
  cases negative <;> simp [signFactor]

theorem inv_signFactor (negative : Bool) : (signFactor negative)⁻¹ = signFactor negative := by
  cases negative <;> norm_num [signFactor]

theorem cast_signed (negative : Bool) (n : Nat) :
    (signed negative n : ℚ) = signFactor negative * n := by
  cases negative <;> simp [signed, signFactor]

/-- An integer is its magnitude with its sign. -/
theorem cast_eq_signFactor_mul (n : Int) :
    (n : ℚ) = signFactor (decide (n < 0)) * (n.natAbs : ℚ) := by
  rw [Nat.cast_natAbs, Int.cast_abs]
  by_cases h : n < 0
  · have : (n : ℚ) < 0 := by exact_mod_cast h
    simp [signFactor, h, abs_of_neg this]
  · have : (0 : ℚ) ≤ n := by exact_mod_cast not_lt.1 h
    simp [signFactor, h, abs_of_nonneg this]

namespace TruncatedQuotient

/-! ### The exact number -/

/-- The magnitude of the exact number. -/
def magnitude (q : TruncatedQuotient) : ℚ := q.whole + q.remainder / q.divisor

/-- The exact number that a truncated quotient stands for. -/
def value (q : TruncatedQuotient) : ℚ := signFactor q.negative * q.magnitude

theorem magnitude_nonneg (q : TruncatedQuotient) : 0 ≤ q.magnitude := by
  unfold magnitude
  positivity

theorem abs_value (q : TruncatedQuotient) : |q.value| = q.magnitude := by
  rw [value, abs_mul, abs_of_nonneg q.magnitude_nonneg]
  cases q.negative <;> simp [signFactor]

section Magnitude

variable {q : TruncatedQuotient} (h : q.remainder < q.divisor)

include h

theorem floor_magnitude : ⌊q.magnitude⌋ = q.whole := by
  have positive : (0 : ℚ) < q.divisor := by exact_mod_cast (Nat.zero_le _).trans_lt h
  have below : (q.remainder : ℚ) / q.divisor < 1 := by
    rw [div_lt_one positive]
    exact_mod_cast h
  have above : (0 : ℚ) ≤ q.remainder / q.divisor := by positivity
  rw [Int.floor_eq_iff, magnitude]
  constructor <;> push_cast <;> linarith

theorem fract_magnitude : Int.fract q.magnitude = q.remainder / q.divisor := by
  rw [← Int.self_sub_floor, floor_magnitude h, magnitude]
  push_cast
  ring

theorem fract_magnitude_eq_zero_iff : Int.fract q.magnitude = 0 ↔ q.remainder = 0 := by
  have nonzero : (q.divisor : ℚ) ≠ 0 := by exact_mod_cast (Nat.zero_le _).trans_lt h |>.ne'
  rw [fract_magnitude h, div_eq_zero_iff]
  simp [nonzero]

theorem ceil_magnitude (inexact : q.remainder ≠ 0) : ⌈q.magnitude⌉ = q.whole + 1 := by
  have hfract := (fract_magnitude_eq_zero_iff h).not.2 inexact
  rw [RoundingMode.ceil_eq_floor_add_one hfract, floor_magnitude h]

/-- Below the half, the remainder is smaller than the distance to the divisor. -/
theorem fract_magnitude_lt_half_iff :
    Int.fract q.magnitude < 1 / 2 ↔ q.remainder < q.divisor - q.remainder := by
  have positive : (0 : ℚ) < q.divisor := by exact_mod_cast (Nat.zero_le _).trans_lt h
  have : (q.remainder : ℚ) * 2 < q.divisor ↔ q.remainder * 2 < q.divisor := by
    exact_mod_cast Iff.rfl
  rw [fract_magnitude h, div_lt_div_iff₀ positive two_pos, one_mul, this]
  omega

/-- Above the half, the remainder is larger than the distance to the divisor. -/
theorem half_lt_fract_magnitude_iff :
    1 / 2 < Int.fract q.magnitude ↔ q.divisor - q.remainder < q.remainder := by
  have positive : (0 : ℚ) < q.divisor := by exact_mod_cast (Nat.zero_le _).trans_lt h
  have : (q.divisor : ℚ) < q.remainder * 2 ↔ q.divisor < q.remainder * 2 := by
    exact_mod_cast Iff.rfl
  rw [fract_magnitude h, div_lt_div_iff₀ two_pos positive, one_mul, this]
  omega

/-! ### The rounded magnitude -/

/-- To nearest, the remainder is compared with the distance to the divisor. -/
theorem nearest_magnitude (inexact : q.remainder ≠ 0) (tie : ℚ → ℤ) :
    RoundingMode.nearest tie q.magnitude =
      if q.remainder < q.divisor - q.remainder then (q.whole : ℤ)
      else if q.divisor - q.remainder < q.remainder then (q.whole : ℤ) + 1
      else tie q.magnitude := by
  rw [RoundingMode.nearest, if_congr (fract_magnitude_lt_half_iff h) rfl rfl,
    if_congr (half_lt_fract_magnitude_iff h) rfl rfl, floor_magnitude h, ceil_magnitude h inexact]

/-- Rounding a number that is not below zero looks at whole part and remainder. -/
theorem round_magnitude (mode : RoundingMode) (positive : q.negative = false) :
    mode.round q.magnitude = q.roundedMagnitude mode := by
  by_cases exact : q.remainder = 0
  · have hvalue : q.magnitude = (q.whole : ℤ) := by simp [magnitude, exact]
    rw [hvalue, RoundingMode.round_intCast, roundedMagnitude,
      movesAway_eq_false_of_remainder exact]
    rfl
  have hnonneg := q.magnitude_nonneg
  have hfloor := floor_magnitude h
  have hceil := ceil_magnitude h exact
  have hnearest := nearest_magnitude h exact
  cases mode with
  | up | down | ceiling | floor | unnecessary =>
      simp [RoundingMode.round, RoundingMode.outward, RoundingMode.inward, roundedMagnitude,
        movesAway, exact, positive, hnonneg, hfloor, hceil]
  | halfUp | halfDown =>
      simp only [RoundingMode.round, RoundingMode.outward, RoundingMode.inward, hnearest,
        if_pos hnonneg, hfloor, hceil, roundedMagnitude, movesAway, if_neg exact]
      split_ifs <;> simp_all <;> omega
  | halfEven =>
      have parity : Even (q.whole : ℤ) ↔ q.whole % 2 = 0 := by
        rw [Int.even_coe_nat, Nat.even_iff]
      simp only [RoundingMode.round, RoundingMode.toEven, hnearest, hfloor, hceil,
        if_congr parity rfl rfl, roundedMagnitude, movesAway, if_neg exact]
      split_ifs <;> simp_all <;> omega

end Magnitude

/-! ### The rounded number -/

/-- The magnitude does not depend on the sign. -/
@[simp] theorem magnitude_setNegative (q : TruncatedQuotient) (negative : Bool) :
    { q with negative := negative }.magnitude = q.magnitude := rfl

/-- Below zero the magnitude moves as the reflected mode moves it above zero. -/
theorem roundedMagnitude_of_negative {q : TruncatedQuotient} (negative : q.negative = true)
    (mode : RoundingMode) :
    q.roundedMagnitude mode = { q with negative := false }.roundedMagnitude mode.reflect := by
  cases mode <;> simp [roundedMagnitude, movesAway, RoundingMode.reflect, negative]

/-- **The rounded magnitude with its sign is the rounding of the exact number.** -/
theorem signed_roundedMagnitude {q : TruncatedQuotient} (h : q.remainder < q.divisor)
    (mode : RoundingMode) : signed q.negative (q.roundedMagnitude mode) = mode.round q.value := by
  cases negative : q.negative with
  | false =>
      have hvalue : q.value = q.magnitude := by simp [value, signFactor, negative]
      rw [hvalue, round_magnitude h mode negative]
      rfl
  | true =>
      have hvalue : q.value = -q.magnitude := by simp [value, signFactor, negative]
      have hround := round_magnitude (q := { q with negative := false }) h mode.reflect rfl
      rw [magnitude_setNegative] at hround
      rw [hvalue, RoundingMode.round_neg, hround, roundedMagnitude_of_negative negative]
      rfl

/-- The exact number is an integer if nothing is left over. -/
theorem fract_value_eq_zero_iff {q : TruncatedQuotient} (h : q.remainder < q.divisor) :
    Int.fract q.value = 0 ↔ q.remainder = 0 := by
  rw [← fract_magnitude_eq_zero_iff h]
  cases negative : q.negative with
  | false => simp [value, signFactor, negative]
  | true => simp [value, signFactor, negative, Int.fract_neg_eq_zero]

/-- **Rounding a truncated quotient rounds its exact number**, with the same failures, where the
whole part fits a word. -/
theorem round_eq_roundWord {q : TruncatedQuotient} (h : q.remainder < q.divisor)
    (fits : q.whole < UInt64.size) (mode : RoundingMode) :
    q.round mode = mode.roundWord q.value := by
  have hfloor : ⌊|q.value|⌋ < UInt64.size := by
    rw [abs_value, floor_magnitude h]
    exact_mod_cast fits
  rw [round, RoundingMode.roundWord, signed_roundedMagnitude h, checkWord]
  by_cases forbidden : mode = .unnecessary ∧ q.remainder ≠ 0
  · obtain ⟨rfl, inexact⟩ := forbidden
    have hfract := (fract_value_eq_zero_iff h).not.2 inexact
    rw [if_pos ⟨rfl, inexact⟩, if_neg (by tauto), if_pos ⟨rfl, hfract, hfloor⟩]
  · have allowed : mode ≠ .unnecessary ∨ Int.fract q.value = 0 := by
      rw [fract_value_eq_zero_iff h]
      tauto
    have unforced : ¬(mode = .unnecessary ∧ Int.fract q.value ≠ 0 ∧ ⌊|q.value|⌋ < UInt64.size) := by
      tauto
    simp only [forbidden, allowed, unforced, and_true, if_false]

/-! ### Ratios -/

/-- The truncated quotient of `a * b / divisor` on integers. -/
def ofRatio (a b divisor : Int) : TruncatedQuotient where
  negative := (decide (a < 0) != decide (b < 0)) != decide (divisor < 0)
  whole := a.natAbs * b.natAbs / divisor.natAbs
  remainder := a.natAbs * b.natAbs % divisor.natAbs
  divisor := divisor.natAbs

theorem remainder_ofRatio_lt (a b : Int) {divisor : Int} (nonzero : divisor ≠ 0) :
    (ofRatio a b divisor).remainder < (ofRatio a b divisor).divisor :=
  Nat.mod_lt _ (Int.natAbs_pos.2 nonzero)

theorem magnitude_ofRatio (a b : Int) {divisor : Int} (nonzero : divisor ≠ 0) :
    (ofRatio a b divisor).magnitude = (a.natAbs : ℚ) * b.natAbs / divisor.natAbs := by
  have hdivisor : (divisor.natAbs : ℚ) ≠ 0 := by exact_mod_cast Int.natAbs_ne_zero.2 nonzero
  have hmod : (divisor.natAbs : ℚ) * (a.natAbs * b.natAbs / divisor.natAbs : Nat) +
      (a.natAbs * b.natAbs % divisor.natAbs : Nat) = a.natAbs * b.natAbs := by
    exact_mod_cast Nat.div_add_mod (a.natAbs * b.natAbs) divisor.natAbs
  simp only [magnitude, ofRatio]
  rw [← hmod]
  field_simp

/-- **The value of a ratio is the ratio.** -/
theorem value_ofRatio (a b : Int) {divisor : Int} (nonzero : divisor ≠ 0) :
    (ofRatio a b divisor).value = (a : ℚ) * b / divisor := by
  have hnegative : signFactor (ofRatio a b divisor).negative = signFactor (decide (a < 0)) *
      signFactor (decide (b < 0)) * signFactor (decide (divisor < 0)) := by
    simp only [ofRatio, signFactor_ne]
  calc (ofRatio a b divisor).value
      = signFactor (decide (a < 0)) * signFactor (decide (b < 0)) *
          (signFactor (decide (divisor < 0)))⁻¹ * (a.natAbs * b.natAbs / divisor.natAbs) := by
        rw [value, magnitude_ofRatio a b nonzero, hnegative, inv_signFactor]
    _ = (signFactor (decide (a < 0)) * a.natAbs) * (signFactor (decide (b < 0)) * b.natAbs) /
          (signFactor (decide (divisor < 0)) * divisor.natAbs) := by
        have := signFactor_ne_zero (decide (divisor < 0))
        field_simp
    _ = (a : ℚ) * b / divisor := by
        rw [← cast_eq_signFactor_mul, ← cast_eq_signFactor_mul, ← cast_eq_signFactor_mul]

/-- Division is the ratio with a factor of one. -/
theorem ofDivision_eq_ofRatio (dividend divisor : Int) :
    ofDivision dividend divisor = ofRatio dividend 1 divisor := by
  simp [ofDivision, ofRatio]

end TruncatedQuotient

end DecimalMoney
