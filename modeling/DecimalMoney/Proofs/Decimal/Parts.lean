import DecimalMoney.Proofs.Decimal.Bounded
import DecimalMoney.Proofs.Decimal.CommonScale

/-!
# Parts of a decimal

A decimal falls into an integral part, which is truncated toward zero, and places without a sign.
Put together again they make up the decimal, as the places take the sign of the integral part.
Between minus one and zero the integral part is zero and has no sign, so both parts are those of the
opposite decimal, and that one is what they make up.

## Main results

* `DecimalMoney.Decimal.integerPart_negate`, `DecimalMoney.Decimal.fractionalPart_negate` : the sign
  is in the integral part only.
* `DecimalMoney.Decimal.integerPart_neg_iff` : which decimals have a sign there.
* `DecimalMoney.Decimal.ofParts_parts` : the parts of a decimal, put together.
* `DecimalMoney.Decimal.exists_ofParts_parts_ne` : they need not be the decimal.
-/

namespace DecimalMoney.Decimal

variable {x : Decimal}

/-! ### Signs of the parts -/

theorem integerPart_negate (x : Decimal) : x.negate.integerPart = -x.integerPart :=
  Int.neg_tdiv x.mantissa x.unit

theorem fractionalPart_negate (x : Decimal) : x.negate.fractionalPart = x.fractionalPart := by
  have opposite : x.negate.mantissa.tmod x.negate.unit = -x.mantissa.tmod x.unit :=
    Int.neg_tmod x.mantissa x.unit
  rw [fractionalPart, opposite, Int.natAbs_neg, fractionalPart]

/-- The places are less than one. -/
theorem fractionalPart_lt_unit (x : Decimal) : (x.fractionalPart : Int) < x.unit := by
  have hunit := x.unit_pos
  have small := natAbs_tmod_lt x.mantissa hunit.ne'
  rw [fractionalPart]
  omega

/-- From zero on the places count up from the integral part. -/
theorem integerPart_mul_unit_add (h : 0 ≤ x.mantissa) :
    x.integerPart * x.unit + x.fractionalPart = x.mantissa := by
  rw [fractionalPart, Int.natAbs_of_nonneg (Int.tmod_nonneg x.unit h)]
  exact x.integerPart_mul_unit

/-- Up to zero they count down from it. -/
theorem integerPart_mul_unit_sub (h : x.mantissa ≤ 0) :
    x.integerPart * x.unit - x.fractionalPart = x.mantissa := by
  have opposite : -x.integerPart * x.unit + x.fractionalPart = -x.mantissa := by
    rw [← integerPart_negate, ← x.fractionalPart_negate]
    exact integerPart_mul_unit_add (Int.neg_nonneg_of_nonpos h)
  linarith

/-- **The integral part has a sign** in the decimals up to minus one. -/
theorem integerPart_neg_iff : x.integerPart < 0 ↔ x.mantissa ≤ -x.unit := by
  have hunit := x.unit_pos
  obtain ⟨above, below⟩ := tdiv_ten_pow_between x.mantissa x.scale
  rw [← unit, ← integerPart] at above below
  rcases le_or_gt 0 x.mantissa with nonneg | negative
  · have := above nonneg
    omega
  · have cut : x.integerPart = 0 ↔ -x.unit < x.mantissa := tdiv_ten_pow_eq_zero_iff _ _ negative
    have := below negative.le
    omega

theorem neg_one_lt_value_iff : -1 < x.value ↔ -x.unit < x.mantissa := by
  rw [value, lt_div_iff₀ (by positivity), neg_one_mul, unit]
  exact_mod_cast Iff.rfl

/-! ### Parts put together -/

/-- Up to minus one and from zero on, nothing is lost. -/
theorem ofParts_parts_of_outside (hx : FitsDigits x.mantissa)
    (outside : ¬(-x.unit < x.mantissa ∧ x.mantissa < 0)) :
    ofParts x.integerPart x.fractionalPart x.ownScale = .ok x := by
  have hunit := x.unit_pos
  refine ofParts_eq_ok_iff.2 ⟨x.fractionalPart_lt_unit, x.mantissa, ?_, hx, rfl⟩
  split_ifs with whole
  all_goals rw [integerPart_neg_iff] at whole
  · exact (integerPart_mul_unit_sub (by omega)).symm
  · exact (integerPart_mul_unit_add (by omega)).symm

/-- Between minus one and zero the parts are those of the opposite decimal. -/
theorem parts_negate_of_between (large : -x.unit < x.mantissa) (negative : x.mantissa < 0) :
    x.negate.integerPart = x.integerPart ∧ x.negate.fractionalPart = x.fractionalPart := by
  have whole : x.integerPart = 0 := (tdiv_ten_pow_eq_zero_iff _ _ negative).2 large
  rw [integerPart_negate, whole]
  exact ⟨neg_zero, x.fractionalPart_negate⟩

/-- **The parts of a decimal, put together.** They make up the decimal they are taken from, at every
scale, unless it lies strictly between minus one and zero.  There the integral part is zero and has
no sign, the parts are those of the opposite decimal, and they make up that one. -/
theorem ofParts_parts (hx : FitsDigits x.mantissa) :
    (ofParts x.integerPart x.fractionalPart x.ownScale = .ok x ↔
      ¬(-1 < x.value ∧ x.value < 0)) ∧
    (-1 < x.value → x.value < 0 →
      x.negate.integerPart = x.integerPart ∧ x.negate.fractionalPart = x.fractionalPart ∧
      ofParts x.integerPart x.fractionalPart x.ownScale = .ok x.negate) := by
  rw [neg_one_lt_value_iff, value_neg_iff]
  have between (large : -x.unit < x.mantissa) (negative : x.mantissa < 0) :
      ofParts x.integerPart x.fractionalPart x.ownScale = .ok x.negate := by
    obtain ⟨whole, places⟩ := parts_negate_of_between large negative
    -- the opposite decimal is above zero, where nothing is lost
    rw [← whole, ← places]
    exact ofParts_parts_of_outside hx.neg fun h => (Int.neg_pos_of_neg negative).not_gt h.2
  refine ⟨⟨fun h => ?_, ofParts_parts_of_outside hx⟩, fun large negative => ?_⟩
  -- no decimal but zero is its own opposite
  · rintro ⟨large, negative⟩
    have same : x.mantissa = -x.mantissa :=
      congrArg mantissa (Except.ok.inj (h.symm.trans (between large negative)))
    omega
  · obtain ⟨whole, places⟩ := parts_negate_of_between large negative
    exact ⟨whole, places, between large negative⟩

/-- Minus one and a half is made up of its parts; minus one half has the parts of one half. -/
theorem ofParts_parts_of_halves :
    ∃ x y : Decimal, FitsDigits x.mantissa ∧ FitsDigits y.mantissa ∧
      x.value = -3 / 2 ∧ ofParts x.integerPart x.fractionalPart x.ownScale = .ok x ∧
      y.value = -1 / 2 ∧ y.negate.integerPart = y.integerPart ∧
      y.negate.fractionalPart = y.fractionalPart ∧
      ofParts y.integerPart y.fractionalPart y.ownScale = .ok y.negate := by
  let x : Decimal := ⟨-15, 1, by decide⟩
  let y : Decimal := ⟨-5, 1, by decide⟩
  have hx : FitsDigits x.mantissa := by decide
  have hy : FitsDigits y.mantissa := by decide
  have xValue : x.value = -3 / 2 := by norm_num [x, value]
  have yValue : y.value = -1 / 2 := by norm_num [y, value]
  have xOutside : ¬(-1 < x.value ∧ x.value < 0) := by
    rw [xValue]
    norm_num
  have yLarge : -1 < y.value := by
    rw [yValue]
    norm_num
  have yNegative : y.value < 0 := by
    rw [yValue]
    norm_num
  exact ⟨x, y, hx, hy, xValue, (ofParts_parts hx).1.2 xOutside, yValue,
    (ofParts_parts hy).2 yLarge yNegative⟩

/-- Minus one half is not made up of its parts. -/
theorem exists_ofParts_parts_ne :
    ∃ x : Decimal, FitsDigits x.mantissa ∧
      ofParts x.integerPart x.fractionalPart x.ownScale ≠ .ok x :=
  ⟨⟨-5, 1, by decide⟩, by decide, by decide⟩

end DecimalMoney.Decimal
