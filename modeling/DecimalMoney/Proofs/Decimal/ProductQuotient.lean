import DecimalMoney.Decimal.Arithmetic
import DecimalMoney.Proofs.Decimal.Value
import DecimalMoney.Proofs.Rounding.Digits

/-!
# Exact products and quotients of decimals

A product or quotient of two decimals has the scale of the first one: its mantissa is the exact
product or quotient, in units of the last place of the first operand, rounded once.  Where an
operand is zero, or the second one is one or minus one, no product is computed and nothing is
checked, but the exact number is an integer of eighteen digits then, which every mode keeps.

## Main results

* `DecimalMoney.Decimal.withMantissa_multiplyScaled`,
  `DecimalMoney.Decimal.withMantissa_divideScaled` : the way that computes the whole product.
* `DecimalMoney.Decimal.multiply_eq`, `DecimalMoney.Decimal.divide_eq` : products and quotients are
  the exact number, rounded to eighteen digits, on all ways.
* `DecimalMoney.Decimal.multiply_divide_exact` : all of this together.
-/

namespace DecimalMoney.Decimal

variable {x y : Decimal}

/-! ### Values of particular mantissas -/

theorem value_eq_one (h : y.mantissa = y.unit) : y.value = 1 := by
  rw [value, h, unit, Int.cast_pow, Int.cast_ofNat, div_self (cast_ten_pow_ne_zero y.scale)]

theorem value_eq_neg_one (h : y.mantissa = -y.unit) : y.value = -1 := by
  rw [value, h, unit, Int.cast_neg, Int.cast_pow, Int.cast_ofNat, neg_div,
    div_self (cast_ten_pow_ne_zero y.scale)]

/-! ### Rounded mantissas -/

/-- A mantissa that has been computed is checked when it is set. -/
theorem bind_withMantissa (x : Decimal) (computed : Except Failure Int) :
    (computed >>= x.withMantissa) = (computed >>= checkDigits).map x.setMantissa := by
  cases computed <;> rfl

/-- An exact number that is an integer of eighteen digits is the mantissa, whatever the mode. -/
theorem map_roundDigits_of_eq {exact : ℚ} {m : Int} (h : exact = m) (digits : FitsDigits m)
    (x : Decimal) (mode : RoundingMode) :
    (mode.roundDigits exact).map x.setMantissa = .ok (x.setMantissa m) := by
  rw [h, RoundingMode.roundDigits_intCast, checkDigits_of_fitsDigits digits]
  rfl

section Exact

variable (hx : FitsDigits x.mantissa) (hy : FitsDigits y.mantissa) (mode : RoundingMode)

include hx hy

/-- **The whole product, divided by a power of ten**, is the exact product, rounded. -/
theorem withMantissa_multiplyScaled :
    (do x.withMantissa (← multiplyScaled x.mantissa y.mantissa y.scale mode)) =
      (mode.roundDigits (x.value * y.value * 10 ^ x.scale)).map x.setMantissa := by
  rw [bind_withMantissa, multiplyScaled, powerOfTen_natCast y.scale_le, ok_bind,
    divideProduct_bind_checkDigits hx.fitsWord hy.fitsWord (fitsWord_ten_pow y.scale_le)
      (ten_pow_pos y.scale).ne', value_mul_value_mul_pow (Nat.add_comm _ _)]

/-- **The product with a power of ten, divided by the divisor**, is the exact quotient, rounded. -/
theorem withMantissa_divideScaled (nonzero : y.mantissa ≠ 0) :
    (do x.withMantissa (← divideScaled x.mantissa y.scale y.mantissa mode)) =
      (mode.roundDigits (x.value / y.value * 10 ^ x.scale)).map x.setMantissa := by
  rw [bind_withMantissa, divideScaled, powerOfTen_natCast y.scale_le, ok_bind,
    divideProduct_bind_checkDigits hx.fitsWord (fitsWord_ten_pow y.scale_le) hy.fitsWord nonzero,
    value_div_value_mul_pow rfl]

/-- **Products are the exact product, rounded**, also where a factor is zero, one or minus one. -/
theorem multiply_eq : x.multiply y mode =
    (mode.roundDigits (x.value * y.value * 10 ^ x.scale)).map x.setMantissa := by
  unfold multiply
  split_ifs with zero one minusOne
  · have hvalue : x.value * y.value * 10 ^ x.scale = (0 : Int) := by
      rw [Bool.or_eq_true, isZero_iff, isZero_iff] at zero
      rcases zero with hzero | hzero <;> simp [value_eq_zero_iff.2 hzero]
    exact (map_roundDigits_of_eq hvalue fitsDigits_zero x mode).symm
  · have hvalue : x.value * y.value * 10 ^ x.scale = x.mantissa := by
      rw [value_eq_one (isOne_iff.1 one), mul_one, value_mul_unit]
    exact (map_roundDigits_of_eq hvalue hx x mode).symm
  · have hvalue : x.value * y.value * 10 ^ x.scale = (-x.mantissa : Int) := by
      rw [value_eq_neg_one (isMinusOne_iff.1 minusOne), mul_neg_one, neg_mul, value_mul_unit,
        Int.cast_neg]
    exact (map_roundDigits_of_eq hvalue hx.neg x mode).symm
  · exact withMantissa_multiplyScaled hx hy mode

/-- **Quotients are the exact quotient, rounded**, also where the dividend is zero or the divisor is
one or minus one. -/
theorem divide_eq (nonzero : y.mantissa ≠ 0) : x.divide y mode =
    (mode.roundDigits (x.value / y.value * 10 ^ x.scale)).map x.setMantissa := by
  unfold divide
  split_ifs with zeroDivisor zero one minusOne
  · exact absurd (isZero_iff.1 zeroDivisor) nonzero
  · have hvalue : x.value / y.value * 10 ^ x.scale = x.mantissa := by
      rw [value_eq_zero_iff.2 (isZero_iff.1 zero), isZero_iff.1 zero, zero_div, zero_mul,
        Int.cast_zero]
    exact (map_roundDigits_of_eq hvalue hx x mode).symm
  · have hvalue : x.value / y.value * 10 ^ x.scale = x.mantissa := by
      rw [value_eq_one (isOne_iff.1 one), div_one, value_mul_unit]
    exact (map_roundDigits_of_eq hvalue hx x mode).symm
  · have hvalue : x.value / y.value * 10 ^ x.scale = (-x.mantissa : Int) := by
      rw [value_eq_neg_one (isMinusOne_iff.1 minusOne), div_neg, div_one, neg_mul, value_mul_unit,
        Int.cast_neg]
    exact (map_roundDigits_of_eq hvalue hx.neg x mode).symm
  · exact withMantissa_divideScaled hx hy mode nonzero

/-- **Exact products and quotients of decimals.** For two decimals of eighteen digits the product is
the exact product of their values, in units of the last place of the first one, rounded to eighteen
digits; the quotient by a divisor other than zero is the exact quotient, rounded in the same way,
and a zero divisor is refused, also for a zero dividend.  Both are what the way through the whole
product yields, so that its shortcuts for zero, one and minus one do not show. -/
theorem multiply_divide_exact :
    (x.multiply y mode =
      (mode.roundDigits (x.value * y.value * 10 ^ x.scale)).map x.setMantissa) ∧
    (y.mantissa ≠ 0 → x.divide y mode =
      (mode.roundDigits (x.value / y.value * 10 ^ x.scale)).map x.setMantissa) ∧
    (y.mantissa = 0 → x.divide y mode = .error .divisionByZero) ∧
    (x.multiply y mode = do
      x.withMantissa (← multiplyScaled x.mantissa y.mantissa y.scale mode)) ∧
    (y.mantissa ≠ 0 → x.divide y mode = do
      x.withMantissa (← divideScaled x.mantissa y.scale y.mantissa mode)) := by
  have product := multiply_eq hx hy mode
  have quotient := divide_eq hx hy mode
  refine ⟨product, quotient, fun zero => ?_, ?_, fun nonzero => ?_⟩
  · rw [divide, if_pos (isZero_iff.2 zero)]
  · rw [product, withMantissa_multiplyScaled hx hy mode]
  · rw [quotient nonzero, withMantissa_divideScaled hx hy mode nonzero]

end Exact

/-- A quarter times minus a half, a tie that goes to the even neighbour, and the exact quotient of
the two, which needs no rounding. -/
theorem multiply_divide_exact_of_quarter :
    ∃ x y : Decimal, FitsDigits x.mantissa ∧ FitsDigits y.mantissa ∧ y.mantissa ≠ 0 ∧
      x.multiply y .halfEven = .ok (x.setMantissa (-12)) ∧
      (RoundingMode.halfEven.roundDigits (x.value * y.value * 10 ^ x.scale)).map x.setMantissa =
        .ok (x.setMantissa (-12)) ∧
      x.divide y .unnecessary = .ok (x.setMantissa (-50)) ∧
      (RoundingMode.unnecessary.roundDigits (x.value / y.value * 10 ^ x.scale)).map x.setMantissa =
        .ok (x.setMantissa (-50)) := by
  let quarter : Decimal := ⟨25, 2, by decide⟩
  let half : Decimal := ⟨-5, 1, by decide⟩
  have hquarter : FitsDigits quarter.mantissa := by decide
  have hhalf : FitsDigits half.mantissa := by decide
  have tie : quarter.multiply half .halfEven = .ok (quarter.setMantissa (-12)) := by decide +kernel
  have exact : quarter.divide half .unnecessary = .ok (quarter.setMantissa (-50)) := by
    decide +kernel
  obtain ⟨product, -⟩ := multiply_divide_exact hquarter hhalf .halfEven
  obtain ⟨-, quotient, -⟩ := multiply_divide_exact hquarter hhalf .unnecessary
  exact ⟨quarter, half, hquarter, hhalf, by decide, tie, product.symm.trans tie, exact,
    (quotient (by decide)).symm.trans exact⟩

end DecimalMoney.Decimal
