import DecimalMoney.Proofs.Decimal.Bounded
import DecimalMoney.Proofs.Decimal.CommonScale

/-!
# Decimals of many digits

Other libraries have decimals of more digits and places.  Such a number is taken over exactly or not
at all: it has to be an integer in units of the last place here, and that integer must not have more
than eighteen digits.  Which of the two fails decides on the failure, whether places are added or
taken away.  All of this is computed in double words, which are large enough for everything but the
product with a power of ten, and that one is checked.

## Main definitions

* `DecimalMoney.FitsDoubleWord` : within a signed word of 128 bits.
* `DecimalMoney.LongDecimal.value` : the value of a decimal of many digits.
* `DecimalMoney.LongDecimal.Compact` : the size of what is exchanged.
* `DecimalMoney.LongDecimal.StepsFit` : what is computed without a check on the way to a scale.

## Main results

* `DecimalMoney.Decimal.ofLongAt_of_eq_intCast`, `DecimalMoney.Decimal.ofLongAt_of_ne_intCast` : the
  outcome is decided by the value.
* `DecimalMoney.LongDecimal.Compact.stepsFit` : nothing overflows that is not checked.
* `DecimalMoney.Decimal.ofLong_toLong_of_admits` : a decimal that is given away comes back.
* `DecimalMoney.Decimal.ofLongAt_exact` : all of this together.
-/

namespace DecimalMoney

/-- The integer fits a signed word of 128 bits. -/
def FitsDoubleWord (n : Int) : Prop :=
  -0x80000000000000000000000000000000 ≤ n ∧ n < 0x80000000000000000000000000000000

instance (n : Int) : Decidable (FitsDoubleWord n) := inferInstanceAs (Decidable (_ ∧ _))

/-- A magnitude of 96 bits fits a double word. -/
theorem fitsDoubleWord_of_natAbs_lt {n : Int} (h : n.natAbs < 0x1000000000000000000000000) :
    FitsDoubleWord n := by
  unfold FitsDoubleWord
  omega

/-- A power of ten of up to 28 places fits a double word. -/
theorem fitsDoubleWord_ten_pow {n : Nat} (h : n ≤ 28) : FitsDoubleWord (10 ^ n) := by
  have hle : (10 : Int) ^ n ≤ 10 ^ 28 := pow_le_pow_right₀ (by decide) h
  have hpos := ten_pow_pos n
  unfold FitsDoubleWord
  omega

/-- Eighteen digits fit a double word. -/
theorem FitsDigits.fitsDoubleWord {n : Int} (h : FitsDigits n) : FitsDoubleWord n := by
  unfold FitsDigits maxMantissa maxScale at h
  unfold FitsDoubleWord
  omega

namespace LongDecimal

variable {x : LongDecimal} {scale : Scale}

/-- The value of a decimal of many digits. -/
def value (x : LongDecimal) : ℚ := (x.mantissa : ℚ) / 10 ^ x.scale

/-- The mantissa has 96 bits besides its sign, and there are at most 28 places. -/
structure Compact (x : LongDecimal) : Prop where
  mantissa : x.mantissa.natAbs < 0x1000000000000000000000000
  scale : x.scale ≤ 28

/-- What is computed in double words without a check, on the way to a scale. -/
structure StepsFit (x : LongDecimal) (scale : Scale) : Prop where
  /-- The power of ten that adds places. -/
  factor : FitsDoubleWord (10 ^ (scale.1 - x.scale))
  /-- The power of ten that takes places away. -/
  divisor : FitsDoubleWord (10 ^ (x.scale - scale.1))
  /-- What is lost with these places. -/
  remainder : FitsDoubleWord (x.mantissa.tmod (10 ^ (x.scale - scale.1)))
  /-- What is left without them. -/
  quotient : FitsDoubleWord (x.mantissa.tdiv (10 ^ (x.scale - scale.1)))

/-- **Nothing overflows that is not checked.** -/
theorem Compact.stepsFit (h : x.Compact) (scale : Scale) : x.StepsFit scale where
  factor := fitsDoubleWord_ten_pow ((Nat.sub_le _ _).trans (scale.2.trans (by decide)))
  divisor := fitsDoubleWord_ten_pow ((Nat.sub_le _ _).trans h.scale)
  remainder := fitsDoubleWord_of_natAbs_lt ((natAbs_tmod_le _ _).trans_lt h.mantissa)
  quotient :=
    fitsDoubleWord_of_natAbs_lt ((Int.natAbs_tdiv_le_natAbs _ _).trans_lt h.mantissa)

end LongDecimal

namespace Decimal

variable {x : LongDecimal} {y : Decimal} {scale : Scale}

/-! ### Decimals that are taken over -/

/-- **An integer in units of the scale is only checked**, whether places are added or taken away. -/
theorem ofLongAt_of_eq_intCast {n : Int} (h : x.value * 10 ^ scale.1 = n) :
    ofLongAt x scale = (do return atScale (← checkDigits n) scale) := by
  unfold ofLongAt
  split_ifs with wider inexact
  · have units : n = x.mantissa * 10 ^ (scale.1 - x.scale) := by
      exact_mod_cast h.symm.trans (div_ten_pow_mul_of_ge x.mantissa wider)
    rw [units]
  · have units := (div_ten_pow_mul_eq_intCast_iff (not_le.1 wider).le).1 h
    rw [units] at inexact
    exact absurd (Int.mul_tmod_left _ _) inexact
  · have units := (div_ten_pow_mul_eq_intCast_iff (not_le.1 wider).le).1 h
    rw [units, Int.mul_tdiv_cancel _ (ten_pow_pos _).ne']

/-- **Any other number would have to be rounded.** -/
theorem ofLongAt_of_ne_intCast (h : ∀ n : Int, x.value * 10 ^ scale.1 ≠ n) :
    ofLongAt x scale = .error .roundingRequired := by
  have narrower : ¬x.scale ≤ scale.1 := fun wider =>
    h _ (div_ten_pow_mul_of_ge x.mantissa wider)
  have inexact : x.mantissa.tmod (10 ^ (x.scale - scale.1)) ≠ 0 := by
    intro exact
    obtain ⟨n, hn⟩ := Int.dvd_of_tmod_eq_zero exact
    exact h n ((div_ten_pow_mul_eq_intCast_iff (not_le.1 narrower).le).2
      (hn.trans (mul_comm _ _)))
  rw [ofLongAt, if_neg narrower, if_pos inexact]

/-- What is taken over is the decimal of the same value at the scale. -/
theorem ofLongAt_eq_ok_iff :
    ofLongAt x scale = .ok y ↔ y.scale = scale.1 ∧ y.value = x.value ∧ FitsDigits y.mantissa := by
  constructor
  · intro h
    obtain ⟨n, units⟩ : ∃ n : Int, x.value * 10 ^ scale.1 = n := by
      by_contra inexact
      rw [ofLongAt_of_ne_intCast fun n units => inexact ⟨n, units⟩] at h
      cases h
    rw [ofLongAt_of_eq_intCast units] at h
    obtain ⟨digits, rfl⟩ := checkDigits_atScale_eq_ok_iff.1 h
    exact ⟨rfl, value_eq_iff.2 units.symm, digits⟩
  · rintro ⟨same, hvalue, digits⟩
    have units : x.value * 10 ^ scale.1 = y.mantissa := by rw [value_eq_iff.1 hvalue, same]
    have atScale_value : (atScale y.mantissa scale).value = x.value := value_eq_iff.2 units.symm
    rw [ofLongAt_of_eq_intCast units]
    exact checkDigits_atScale_eq_ok_iff.2
      ⟨digits, eq_of_value_eq same (hvalue.trans atScale_value.symm)⟩

/-- It is taken over exactly if the units are an integer of eighteen digits. -/
theorem exists_ofLongAt_eq_ok_iff :
    (∃ y, ofLongAt x scale = .ok y) ↔ ∃ n : Int, x.value * 10 ^ scale.1 = n ∧ FitsDigits n := by
  constructor
  · rintro ⟨y, h⟩
    obtain ⟨same, hvalue, digits⟩ := ofLongAt_eq_ok_iff.1 h
    exact ⟨y.mantissa, by rw [value_eq_iff.1 hvalue, same], digits⟩
  · rintro ⟨n, units, digits⟩
    rw [ofLongAt_of_eq_intCast units]
    exact ⟨_, checkDigits_atScale_eq_ok_iff.2 ⟨digits, rfl⟩⟩

/-- What fails is the first condition that does not hold: the number is an integer in units of the
scale, and that integer has at most eighteen digits. -/
theorem ofLongAt_eq_error_iff {failure : Failure} : ofLongAt x scale = .error failure ↔
    (failure = .roundingRequired ∧ ¬∃ n : Int, x.value * 10 ^ scale.1 = n) ∨
      (failure = .overflow ∧ ∃ n : Int, x.value * 10 ^ scale.1 = n ∧ ¬FitsDigits n) := by
  by_cases whole : ∃ n : Int, x.value * 10 ^ scale.1 = n
  · obtain ⟨n, units⟩ := whole
    have same : ∀ k : Int, x.value * 10 ^ scale.1 = k ↔ k = n := fun k => by
      rw [units, Int.cast_inj, eq_comm]
    rw [ofLongAt_of_eq_intCast units]
    by_cases digits : FitsDigits n
    · simp [checkDigits_of_fitsDigits digits, same, digits]
    · simp [checkDigits_eq_overflow_iff.2 digits, same, digits, eq_comm]
  · rw [ofLongAt_of_ne_intCast fun n units => whole ⟨n, units⟩]
    have unfit : ¬∃ n : Int, x.value * 10 ^ scale.1 = n ∧ ¬FitsDigits n :=
      fun ⟨n, units, _⟩ => whole ⟨n, units⟩
    simp only [Except.error.injEq, whole, unfit, not_false_eq_true, and_true, and_false, or_false]
    exact eq_comm

/-! ### Decimals that are given away -/

/-- What is given away is of the size that is exchanged. -/
theorem compact_toLong (hy : FitsDigits y.mantissa) : y.toLong.Compact where
  mantissa := by
    have bound : y.toLong.mantissa = y.mantissa := rfl
    unfold FitsDigits maxMantissa maxScale at hy
    omega
  scale := y.scale_le.trans (by decide)

/-- **A decimal that is given away comes back**, in every format that has its scale. -/
theorem ofLong_toLong_of_admits {format : Format} (admits : format.Admits y)
    (hy : FitsDigits y.mantissa) : format.ofLong y.toLong = .ok y := by
  cases format with
  | fixed scale => exact ofLongAt_eq_ok_iff.2 ⟨admits, rfl, hy⟩
  | free =>
    have made := ofUnits_of_scale y.mantissa y.ownScale
    exact made.trans (checkDigits_atScale_eq_ok_iff.2 ⟨hy, rfl⟩)

/-! ### The exchange as a whole -/

/-- **Exact exchange.** A decimal of 96 bits is taken over at a scale exactly if it is an integer of
at most eighteen digits in units of the last place there, and as the decimal of the same value.  If
it is no integer rounding would be required, and if it is one of more digits it overflows.  What is
computed in double words without a check fits them, and where the one product that is checked does
not, the outcome is the overflow.  A decimal of eighteen digits that is given away is of that size,
and comes back as it was, with its scale, in every format that it is a value of. -/
theorem ofLongAt_exact (hx : x.Compact) (scale : Scale) :
    (∀ y, ofLongAt x scale = .ok y ↔
      y.scale = scale.1 ∧ y.value = x.value ∧ FitsDigits y.mantissa) ∧
    ((∃ y, ofLongAt x scale = .ok y) ↔ ∃ n : Int, x.value * 10 ^ scale.1 = n ∧ FitsDigits n) ∧
    (ofLongAt x scale = .error .roundingRequired ↔ ¬∃ n : Int, x.value * 10 ^ scale.1 = n) ∧
    (ofLongAt x scale = .error .overflow ↔
      ∃ n : Int, x.value * 10 ^ scale.1 = n ∧ ¬FitsDigits n) ∧
    x.StepsFit scale ∧
    (x.scale ≤ scale.1 → ¬FitsDoubleWord (x.mantissa * 10 ^ (scale.1 - x.scale)) →
      ofLongAt x scale = .error .overflow) ∧
    ∀ (format : Format) (y : Decimal), format.Admits y → FitsDigits y.mantissa →
      y.toLong.Compact ∧ format.ofLong y.toLong = .ok y := by
  refine ⟨fun y => ofLongAt_eq_ok_iff, exists_ofLongAt_eq_ok_iff, ?_, ?_, hx.stepsFit scale, ?_,
    fun format y admits hy => ⟨compact_toLong hy, ofLong_toLong_of_admits admits hy⟩⟩
  · simp [ofLongAt_eq_error_iff]
  · simp [ofLongAt_eq_error_iff]
  · intro wider large
    refine ofLongAt_eq_error_iff.2 (.inr ⟨rfl, _, div_ten_pow_mul_of_ge x.mantissa wider, ?_⟩)
    exact fun digits => large digits.fitsDoubleWord

/-- A mantissa of more than 64 bits whose places are zeros, one with a place too many, and one that
leaves the double words when it is widened. -/
theorem ofLongAt_exact_of_long_mantissas :
    ∃ (half thousandth large : LongDecimal) (hundredths all : Scale) (y : Decimal),
      half.Compact ∧ half.mantissa.natAbs > UInt64.size ∧ ofLongAt half hundredths = .ok y ∧
      y.value = half.value ∧
      thousandth.Compact ∧ ofLongAt thousandth hundredths = .error .roundingRequired ∧
      (¬∃ n : Int, thousandth.value * 10 ^ hundredths.1 = n) ∧
      large.Compact ∧ ¬FitsDoubleWord (large.mantissa * 10 ^ (all.1 - large.scale)) ∧
      ofLongAt large all = .error .overflow ∧
      FitsDigits y.mantissa ∧ Format.free.ofLong y.toLong = .ok y := by
  let half : LongDecimal := ⟨-5 * 10 ^ 24, 25⟩
  let thousandth : LongDecimal := ⟨1, 3⟩
  let large : LongDecimal := ⟨0xFFFFFFFFFFFFFFFFFFFFFFFF, 0⟩
  let hundredths : Scale := ⟨2, by decide⟩
  let all : Scale := ⟨18, by decide⟩
  let y : Decimal := ⟨-50, 2, by decide⟩
  have hhalf : half.Compact := ⟨by decide, by decide⟩
  have hthousandth : thousandth.Compact := ⟨by decide, by decide⟩
  have hlarge : large.Compact := ⟨by decide, by decide⟩
  have digits : FitsDigits y.mantissa := by decide
  have exact : ofLongAt half hundredths = .ok y := by decide +kernel
  have inexact : ofLongAt thousandth hundredths = .error .roundingRequired := by decide +kernel
  have leaves : ¬FitsDoubleWord (large.mantissa * 10 ^ (all.1 - large.scale)) := by decide +kernel
  obtain ⟨taken, -, -, -, -, -, back⟩ := ofLongAt_exact hhalf hundredths
  obtain ⟨-, -, refused, -⟩ := ofLongAt_exact hthousandth hundredths
  obtain ⟨-, -, -, -, -, overflows, -⟩ := ofLongAt_exact hlarge all
  exact ⟨half, thousandth, large, hundredths, all, y, hhalf, by decide +kernel, exact,
    ((taken y).1 exact).2.1, hthousandth, inexact, refused.1 inexact, hlarge, leaves,
    overflows (by decide) leaves, digits, (back .free y trivial digits).2⟩

end Decimal

end DecimalMoney
