import DecimalMoney.Proofs.Decimal.Addition
import DecimalMoney.Proofs.Decimal.ProductQuotient

/-!
# Integer factors and divisors

An integer is a decimal without places.  To multiply by it or to divide by it as a decimal is the
same as to do so as an integer: products are exact, so no mode of rounding shows, and quotients are
cut off toward zero.  What is cut off is the remainder, which leads back from the quotient to the
dividend; none of the numbers on that way is larger than the dividend, so it cannot fail.

## Main results

* `DecimalMoney.Decimal.multiplyInt_eq`, `DecimalMoney.Decimal.multiply_integer` : integer factors.
* `DecimalMoney.Decimal.divideInt_of_ne_zero`, `DecimalMoney.Decimal.divide_integer` : integer
  divisors.
* `DecimalMoney.Decimal.exists_multiplyInt_add_remainder` : quotient and remainder make up the
  dividend.
* `DecimalMoney.Decimal.integer_operations_agree` : all of this together.
-/

namespace DecimalMoney.Decimal

variable {x : Decimal} {n : Int}

/-! ### Factors -/

/-- An integer is its own value. -/
theorem value_integer (n : Int) : (atScale n integerScale).value = n := by
  rw [value_atScale, integerScale, pow_zero, div_one]

/-- **A product with an integer is exact**, also where it is not computed. -/
theorem multiplyInt_eq (hx : FitsDigits x.mantissa) (n : Int) :
    x.multiplyInt n = x.withMantissa (x.mantissa * n) := by
  unfold multiplyInt
  split_ifs with one minusOne
  · rw [one, mul_one]
    exact (withMantissa_eq_ok_iff.2 ⟨hx, rfl⟩).symm
  · rw [minusOne, mul_neg_one]
    exact (withMantissa_eq_ok_iff.2 ⟨hx.neg, rfl⟩).symm
  · rfl

/-- **As a product of decimals it is the same**, in every mode. -/
theorem multiply_integer (hx : FitsDigits x.mantissa) (hn : FitsDigits n) (mode : RoundingMode) :
    x.multiply (atScale n integerScale) mode = x.withMantissa (x.mantissa * n) := by
  have units : x.value * (atScale n integerScale).value * 10 ^ x.scale =
      ((x.mantissa * n : Int) : ℚ) := by
    rw [value_integer, mul_right_comm, value_mul_unit, Int.cast_mul]
  rw [multiply_eq hx hn, units, RoundingMode.roundDigits_intCast, withMantissa]
  cases checkDigits (x.mantissa * n) <;> rfl

/-! ### Divisors -/

/-- Neither the quotient, nor the remainder, nor the multiple of the divisor between them is larger
than the dividend. -/
theorem fitsDigits_tdiv (hx : FitsDigits x.mantissa) (n : Int) : FitsDigits (x.mantissa.tdiv n) :=
  hx.of_natAbs_le (Int.natAbs_tdiv_le_natAbs _ _)

theorem fitsDigits_tmod (hx : FitsDigits x.mantissa) (n : Int) : FitsDigits (x.mantissa.tmod n) :=
  hx.of_natAbs_le (natAbs_tmod_le _ _)

theorem fitsDigits_tdiv_mul (hx : FitsDigits x.mantissa) (n : Int) :
    FitsDigits (x.mantissa.tdiv n * n) := by
  refine hx.of_natAbs_le ?_
  rw [Int.natAbs_mul, Int.natAbs_tdiv]
  exact Nat.div_mul_le_self _ _

section Divisor

variable (nonzero : n ≠ 0)

include nonzero

/-- **A quotient by an integer is truncated**, also where it is not computed. -/
theorem divideInt_of_ne_zero (x : Decimal) :
    x.divideInt n = .ok (x.setMantissa (x.mantissa.tdiv n)) := by
  rw [divideInt, if_neg nonzero]
  split_ifs with one minusOne
  · rw [one, Int.tdiv_one]
    rfl
  · rw [minusOne, Int.tdiv_neg, Int.tdiv_one]
    rfl
  · rfl

/-- The remainder is what the quotient has lost. -/
theorem remainderInt_of_ne_zero (x : Decimal) :
    x.remainderInt n = .ok (x.setMantissa (x.mantissa.tmod n)) := by
  rw [remainderInt, if_neg nonzero]
  split_ifs with unit
  · have whole : x.mantissa.tmod n = 0 := by rcases unit with rfl | rfl <;> simp
    rw [whole]
    rfl
  · rfl

/-- **As a quotient of decimals it is the same**, toward zero. -/
theorem divide_integer (hx : FitsDigits x.mantissa) (hn : FitsDigits n) :
    x.divide (atScale n integerScale) .down = .ok (x.setMantissa (x.mantissa.tdiv n)) := by
  have units : x.value / (atScale n integerScale).value * 10 ^ x.scale = (x.mantissa : ℚ) / n := by
    rw [value_integer, div_mul_eq_mul_div, value_mul_unit]
  rw [divide_eq hx hn _ nonzero, units, RoundingMode.roundDigits, RoundingMode.round_down_div,
    if_pos ⟨fitsDigits_tdiv hx n, .inl (by decide)⟩]
  rfl

end Divisor

/-! ### Quotient and remainder -/

/-- **Quotient and remainder make up the dividend.** The way back cannot fail. -/
theorem exists_multiplyInt_add_remainder (hx : FitsDigits x.mantissa) (n : Int) :
    ∃ z, (x.setMantissa (x.mantissa.tdiv n)).multiplyInt n = .ok z ∧
      z.add (x.setMantissa (x.mantissa.tmod n)) = .ok x := by
  have hquotient : FitsDigits (x.setMantissa (x.mantissa.tdiv n)).mantissa := fitsDigits_tdiv hx n
  have hmultiple := fitsDigits_tdiv_mul hx n
  refine ⟨x.setMantissa (x.mantissa.tdiv n * n), ?_, ?_⟩
  · rw [multiplyInt_eq hquotient]
    exact withMantissa_eq_ok_iff.2 ⟨hmultiple, rfl⟩
  · rw [setMantissa_add_setMantissa x hmultiple (fitsDigits_tmod hx n), Int.tdiv_mul_add_tmod]
    exact withMantissa_eq_ok_iff.2 ⟨hx, rfl⟩

/-- **Integer factors and divisors.** A decimal and an integer, both of eighteen digits, have one
product, whether the integer is taken as such or as a decimal without places, in any mode, and
whether there is one or it overflows; likewise they have one quotient, toward zero, and a zero is
refused as divisor either way.  Where there is a quotient there is a remainder, whose mantissa is
below the divisor and has the sign of the dividend if it is not zero, and the quotient times the
divisor, plus the remainder, is the dividend again. -/
theorem integer_operations_agree (hx : FitsDigits x.mantissa) (hn : FitsDigits n) :
    (∀ mode, x.multiplyInt n = x.multiply (atScale n integerScale) mode) ∧
    x.divideInt n = x.divide (atScale n integerScale) .down ∧
    (n ≠ 0 → ∃ q r z, x.divideInt n = .ok q ∧ x.remainderInt n = .ok r ∧
      q.multiplyInt n = .ok z ∧ z.add r = .ok x ∧
      |r.mantissa| < |n| ∧ (r.mantissa = 0 ∨ r.mantissa.sign = x.mantissa.sign)) := by
  refine ⟨fun mode => ?_, ?_, fun nonzero => ?_⟩
  · rw [multiplyInt_eq hx, multiply_integer hx hn]
  · by_cases zero : n = 0
    · rw [zero, divideInt, if_pos rfl, divide, if_pos (isZero_iff.2 rfl)]
    · rw [divideInt_of_ne_zero zero, divide_integer zero hx hn]
  · obtain ⟨z, product, sum⟩ := exists_multiplyInt_add_remainder hx n
    refine ⟨_, _, z, divideInt_of_ne_zero nonzero x, remainderInt_of_ne_zero nonzero x, product,
      sum, ?_, ?_⟩
    · rw [mantissa_setMantissa, Int.abs_eq_natAbs, Int.abs_eq_natAbs]
      exact_mod_cast natAbs_tmod_lt x.mantissa nonzero
    · rw [mantissa_setMantissa, Int.sign_tmod]
      by_cases whole : n ∣ x.mantissa
      · exact .inl (Int.tmod_eq_zero_of_dvd whole)
      · exact .inr (if_neg whole)

/-- The smallest decimal of one place and a divisor below zero: the product overflows either way, and
the remainder has the sign of the dividend. -/
theorem integer_operations_agree_of_smallest :
    ∃ x q r z : Decimal, FitsDigits x.mantissa ∧ FitsDigits (-10) ∧
      x.multiplyInt (-10) = .error .overflow ∧
      x.multiply (atScale (-10) integerScale) .halfEven = .error .overflow ∧
      x.divideInt (-10) = .ok q ∧ x.divide (atScale (-10) integerScale) .down = .ok q ∧
      x.remainderInt (-10) = .ok r ∧ r.mantissa = -9 ∧
      q.multiplyInt (-10) = .ok z ∧ z.add r = .ok x := by
  let x : Decimal := ⟨-999999999999999999, 1, by decide⟩
  have hx : FitsDigits x.mantissa := by decide
  have hn : FitsDigits (-10) := by decide
  have large : x.multiplyInt (-10) = .error .overflow := by decide +kernel
  have rest : x.remainderInt (-10) = .ok (x.setMantissa (-9)) := by decide +kernel
  obtain ⟨product, quotient, parts⟩ := integer_operations_agree hx hn
  obtain ⟨q, r, z, hq, hr, hz, back, -⟩ := parts (by decide)
  obtain rfl : x.setMantissa (-9) = r := Except.ok.inj (rest.symm.trans hr)
  exact ⟨x, q, _, z, hx, hn, large, (product .halfEven).symm.trans large, hq,
    quotient.symm.trans hq, hr, rfl, hz, back⟩

end DecimalMoney.Decimal
