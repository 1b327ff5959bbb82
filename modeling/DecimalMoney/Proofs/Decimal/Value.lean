import DecimalMoney.Decimal.Basic
import DecimalMoney.Proofs.Rounding.Excess
import DecimalMoney.Proofs.Sums
import DecimalMoney.Proofs.Wide.ProductQuotient

/-!
# Values of decimals

The value of a decimal is a rational number.  A mantissa that is expressed at another scale without
rounding stands for the same value, and so does a sum of such mantissas.

## Main definitions

* `DecimalMoney.Decimal.value` : the value of a decimal.

## Main results

* `DecimalMoney.Decimal.value_eq_iff` : which mantissa stands for a number.
* `DecimalMoney.Decimal.mul_value`, `DecimalMoney.Decimal.div_value`,
  `DecimalMoney.Decimal.mul_div_value` : products and quotients with values, in integers.
* `DecimalMoney.Decimal.value_mul_value_mul_pow`,
  `DecimalMoney.Decimal.value_div_value_mul_pow` : products and quotients of values in units of a
  place.
* `DecimalMoney.rescale_exact` : a change of scale without rounding keeps the value.
* `DecimalMoney.sum_div_of_mapM_rescale` : so does a change of scale of all terms of a sum.
-/

namespace DecimalMoney

/-- The value of a decimal. -/
def Decimal.value (x : Decimal) : ℚ := (x.mantissa : ℚ) / 10 ^ x.scale

theorem cast_ten_pow_ne_zero (n : Nat) : (10 : ℚ) ^ n ≠ 0 := pow_ne_zero n (by norm_num)

namespace Decimal

/-- A decimal stands for a number if its mantissa is that number in units of the last place. -/
theorem value_eq_iff {x : Decimal} {q : ℚ} : x.value = q ↔ (x.mantissa : ℚ) = q * 10 ^ x.scale :=
  div_eq_iff (cast_ten_pow_ne_zero x.scale)

theorem value_mul_unit (x : Decimal) : x.value * 10 ^ x.scale = x.mantissa :=
  (value_eq_iff.1 rfl).symm

theorem value_eq_zero_iff {x : Decimal} : x.value = 0 ↔ x.mantissa = 0 := by
  rw [value, div_eq_zero_iff, Int.cast_eq_zero]
  exact or_iff_left (cast_ten_pow_ne_zero x.scale)

theorem value_neg_iff {x : Decimal} : x.value < 0 ↔ x.mantissa < 0 := by
  rw [value, div_lt_iff₀ (by positivity), zero_mul]
  exact_mod_cast Iff.rfl

/-- A product with a value, as a ratio of integers. -/
theorem mul_value (n : Int) (x : Decimal) :
    n * x.value = (n : ℚ) * x.mantissa / ((10 ^ x.scale : Int) : ℚ) := by
  rw [value, mul_div_assoc]
  push_cast
  rfl

/-- A quotient by a value. -/
theorem div_value (n : Int) (x : Decimal) :
    n / x.value = (n : ℚ) * ((10 ^ x.scale : Int) : ℚ) / x.mantissa := by
  rw [value, div_div_eq_mul_div]
  push_cast
  rfl

/-- A share in a value: the power of ten of a common scale cancels. -/
theorem mul_div_value (n m : Int) (x : Decimal) :
    n * ((m : ℚ) / 10 ^ x.scale) / x.value = (n : ℚ) * m / x.mantissa := by
  rw [value, ← mul_div_assoc, div_div_div_cancel_right₀ (cast_ten_pow_ne_zero x.scale)]

/-! ### Products and quotients in units of a place -/

/-- A product of values in units of the place `d` is divided by what is left of both scales. -/
theorem value_mul_value_mul_pow {x y : Decimal} {shift d : Nat}
    (h : shift + d = x.scale + y.scale) :
    x.value * y.value * 10 ^ d = (x.mantissa : ℚ) * y.mantissa / ((10 ^ shift : Int) : ℚ) := by
  have places : (10 : ℚ) ^ x.scale * 10 ^ y.scale = 10 ^ shift * 10 ^ d := by
    rw [← pow_add, ← pow_add, h]
  rw [value, value, div_mul_div_comm, places, ← div_div, div_mul_cancel₀ _ (cast_ten_pow_ne_zero d)]
  push_cast
  rfl

/-- A quotient of values in units of the place `d`: the power of ten goes into the dividend, or,
where the scale of the dividend is too large for that, into the divisor. -/
theorem value_div_value_mul_pow {x y : Decimal} {shift d : Nat}
    (h : shift + x.scale = y.scale + d) :
    x.value / y.value * 10 ^ d = (x.mantissa : ℚ) * ((10 ^ shift : Int) : ℚ) / y.mantissa := by
  have places : (10 : ℚ) ^ y.scale * 10 ^ d = 10 ^ shift * 10 ^ x.scale := by
    rw [← pow_add, ← pow_add, h]
  rw [value, value, div_div_div_eq, div_mul_eq_mul_div, mul_assoc, places, ← mul_assoc,
    mul_comm ((10 : ℚ) ^ x.scale), mul_div_mul_right _ _ (cast_ten_pow_ne_zero x.scale)]
  push_cast
  rfl

theorem value_div_value_mul_pow_of_lt {x y : Decimal} {shift d : Nat}
    (h : y.scale + d + shift = x.scale) :
    x.value / y.value * 10 ^ d = (x.mantissa : ℚ) / ((y.mantissa * 10 ^ shift : Int) : ℚ) := by
  have places : (10 : ℚ) ^ x.scale = 10 ^ shift * (10 ^ y.scale * 10 ^ d) := by
    rw [← pow_add, ← pow_add, Nat.add_comm, h]
  have nonzero := mul_ne_zero (cast_ten_pow_ne_zero y.scale) (cast_ten_pow_ne_zero d)
  rw [value, value, div_div_div_eq, div_mul_eq_mul_div, mul_assoc, places, mul_right_comm,
    mul_div_mul_right _ _ nonzero, mul_comm ((10 : ℚ) ^ shift)]
  push_cast
  rfl

end Decimal

/-- **A change of scale without rounding keeps the value.** -/
theorem rescale_exact {mantissa result : Int} {source target : Nat} (hmantissa : FitsWord mantissa)
    (h : rescale mantissa source target .unnecessary = .ok result) :
    (result : ℚ) / 10 ^ target = (mantissa : ℚ) / 10 ^ source ∧ FitsWord result := by
  have hsource := cast_ten_pow_ne_zero source
  have htarget := cast_ten_pow_ne_zero target
  unfold rescale at h
  split_ifs at h with unchanged wider
  · cases h
    refine ⟨?_, hmantissa⟩
    rcases unchanged with rfl | rfl
    · simp
    · rfl
  · obtain ⟨power, hpower, h⟩ := bind_eq_ok_iff.1 h
    obtain ⟨_, rfl⟩ := powerOfTen_eq_ok_iff.1 hpower
    obtain ⟨hdigits, rfl⟩ := checkDigits_eq_ok_iff.1 h
    refine ⟨?_, hdigits.fitsWord⟩
    have split : (10 : ℚ) ^ target = 10 ^ (target - source) * 10 ^ source := by
      rw [← pow_add, Nat.sub_add_cancel wider.le]
    rw [Int.toNat_natCast, div_eq_div_iff htarget hsource, split]
    push_cast
    ring
  · obtain ⟨power, hpower, h⟩ := bind_eq_ok_iff.1 h
    obtain ⟨_, rfl⟩ := powerOfTen_eq_ok_iff.1 hpower
    rw [divideRounded_eq_roundWord hmantissa (ten_pow_pos _).ne', Int.toNat_natCast] at h
    obtain ⟨hround, hword⟩ := RoundingMode.eq_round_of_roundWord h
    refine ⟨?_, hword⟩
    have exact := RoundingMode.excess_eq_zero_of_roundWord h
    rw [RoundingMode.excess, ← hround, sub_eq_zero] at exact
    have split : (10 : ℚ) ^ source = 10 ^ (source - target) * 10 ^ target := by
      rw [← pow_add, Nat.sub_add_cancel (not_lt.1 wider)]
    rw [exact, split]
    push_cast
    rw [div_div]

/-- **A change of scale of all terms without rounding keeps the value of the sum.** -/
theorem sum_div_of_mapM_rescale {xs : List Decimal} {aligned : List Int} {target : Nat}
    (words : ∀ x ∈ xs, FitsWord x.mantissa)
    (h : xs.mapM (fun x => rescale x.mantissa x.scale target .unnecessary) = .ok aligned) :
    ((aligned.sum : Int) : ℚ) / 10 ^ target = (xs.map Decimal.value).sum := by
  have hall := mapM_eq_ok_iff.1 h
  clear h
  induction hall with
  | nil => simp
  | cons hrescale _ ih =>
    obtain ⟨hx, hxs⟩ := List.forall_mem_cons.1 words
    rw [List.sum_cons, Int.cast_add, add_div, (rescale_exact hx hrescale).1, ih hxs, List.map_cons,
      List.sum_cons, Decimal.value]

end DecimalMoney
