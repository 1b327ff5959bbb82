import DecimalMoney.Proofs.Rounding.Truncated
import DecimalMoney.Proofs.Wide.Agreement

/-!
# Exactness of rounded products and quotients

The number `a * b / d` is rounded as if it had been computed exactly: on either backend the result
for words is the rounding of the rational number, and it fails exactly where this rounding is not
allowed or does not fit a word.

## Main results

* `DecimalMoney.TruncatedQuotient.ofProduct_eq` : a backend yields the truncated quotient of the
  integers, if its whole part fits a word.
* `DecimalMoney.divideProductOn_eq_roundWord`, `DecimalMoney.divideRounded_eq_roundWord` : rounded
  products and quotients are roundings of the exact number.
* `DecimalMoney.divideProductOn_exact` : both, with the conditions written out.
-/

namespace DecimalMoney

/-! ### Roundings as words -/

/-- Where there is a result, it is the rounded number and fits a word. -/
theorem RoundingMode.eq_round_of_roundWord {mode : RoundingMode} {x : ℚ} {n : ℤ}
    (h : mode.roundWord x = .ok n) : n = mode.round x ∧ FitsWord n := by
  unfold roundWord at h
  split_ifs at h with fits
  cases h
  exact ⟨rfl, fits.1⟩

/-- An integer is only checked. -/
@[simp] theorem RoundingMode.roundWord_intCast (mode : RoundingMode) (n : ℤ) :
    mode.roundWord n = checkWord n := by
  simp [roundWord, checkWord]

/-- Zero is rounded to zero by every mode. -/
theorem RoundingMode.roundWord_zero (mode : RoundingMode) : mode.roundWord 0 = .ok 0 := by
  rw [← Int.cast_zero, roundWord_intCast]
  exact checkWord_of_fitsWord (by decide)

/-- A number that is rounded to a word has an integral part of at most 64 bits. -/
theorem RoundingMode.floor_abs_lt_size {mode : RoundingMode} {x : ℚ}
    (fits : FitsWord (mode.round x)) : ⌊|x|⌋ < UInt64.size := by
  obtain ⟨low, high⟩ := fits
  have near := mode.abs_round_sub_lt_one x
  have low' : (-0x8000000000000000 : ℚ) ≤ mode.round x := by exact_mod_cast low
  have high' : (mode.round x : ℚ) < 0x8000000000000000 := by exact_mod_cast high
  have bounded : |x| < 0x8000000000000001 := by
    rw [abs_lt] at near ⊢
    constructor <;> linarith
  rw [Int.floor_lt]
  exact bounded.trans (by norm_num)

/-- A number whose integral part does not fit a word of 64 bits is an overflow in every mode. -/
theorem RoundingMode.roundWord_of_size_le {mode : RoundingMode} {x : ℚ}
    (h : (UInt64.size : ℤ) ≤ ⌊|x|⌋) : mode.roundWord x = .error .overflow := by
  rw [roundWord, if_neg fun fits => (floor_abs_lt_size fits.1).not_ge h,
    if_neg fun small => small.2.2.not_ge h]

/-! ### Truncated quotients from a backend -/

/-- **A backend yields the truncated quotient of the integers**, if its whole part fits a word. -/
theorem TruncatedQuotient.ofProduct_eq (backend : Backend) {a b d : Int} (ha : FitsWord a)
    (hb : FitsWord b) (hd : FitsWord d) (nonzero : d ≠ 0) :
    ofProduct backend a b d =
      if (ofRatio a b d).whole < UInt64.size then .ok (ofRatio a b d) else .error .overflow := by
  have hword := magnitudeWord_ne_zero hd nonzero
  rw [ofProduct, if_neg nonzero]
  simp only [Backend.productDivision_eq backend _ _ hword]
  by_cases fits : (ofRatio a b d).whole < UInt64.size
  · have small := fits
    simp only [ofRatio] at small
    rw [← toNat_magnitudeWord ha, ← toNat_magnitudeWord hb, ← toNat_magnitudeWord hd] at small
    obtain ⟨q, r, hsome, hq, hr⟩ := Wide.exists_accelerated_eq_some hword small
    rw [toNat_magnitudeWord ha, toNat_magnitudeWord hb, toNat_magnitudeWord hd] at hq hr
    rw [if_pos fits, hsome]
    simp only [hq, hr, toNat_magnitudeWord hd, ofRatio]
  · have large := Nat.not_lt.1 fits
    simp only [ofRatio] at large
    rw [← toNat_magnitudeWord ha, ← toNat_magnitudeWord hb, ← toNat_magnitudeWord hd] at large
    rw [if_neg fits, Wide.accelerated_eq_none large]

/-- The whole part of a ratio is the integral part of its magnitude. -/
theorem TruncatedQuotient.whole_ofRatio (a b : Int) {d : Int} (nonzero : d ≠ 0) :
    ((ofRatio a b d).whole : ℤ) = ⌊|(a : ℚ) * b / d|⌋ := by
  rw [← value_ofRatio a b nonzero, abs_value, floor_magnitude (remainder_ofRatio_lt a b nonzero)]

/-! ### Rounded products and quotients -/

/-- A rounded product and quotient is the rounding of the exact number. -/
theorem divideProductOn_eq_roundWord (backend : Backend) {a b d : Int} (ha : FitsWord a)
    (hb : FitsWord b) (hd : FitsWord d) (nonzero : d ≠ 0) (mode : RoundingMode) :
    divideProductOn backend a b d mode = mode.roundWord ((a : ℚ) * b / d) := by
  by_cases zero : a = 0 ∨ b = 0
  · have product : (a : ℚ) * b / d = 0 := by rcases zero with rfl | rfl <;> simp
    rw [divideProductOn_of_eq_zero backend nonzero zero, product, RoundingMode.roundWord_zero]
  rw [divideProductOn, if_neg nonzero, if_neg zero,
    TruncatedQuotient.ofProduct_eq backend ha hb hd nonzero]
  by_cases fits : (TruncatedQuotient.ofRatio a b d).whole < UInt64.size
  · have hround := TruncatedQuotient.round_eq_roundWord
      (TruncatedQuotient.remainder_ofRatio_lt a b nonzero) fits mode
    rw [TruncatedQuotient.value_ofRatio a b nonzero] at hround
    rw [if_pos fits, ← hround]
    rfl
  · have large : (UInt64.size : ℤ) ≤ ⌊|(a : ℚ) * b / d|⌋ := by
      rw [← TruncatedQuotient.whole_ofRatio a b nonzero]
      exact_mod_cast Nat.not_lt.1 fits
    rw [if_neg fits, RoundingMode.roundWord_of_size_le large]
    rfl

/-- Where there is a result, it is the rounding of the exact number. -/
theorem eq_round_of_divideProduct {a b d n : Int} {mode : RoundingMode} (ha : FitsWord a)
    (hb : FitsWord b) (hd : FitsWord d) (nonzero : d ≠ 0)
    (h : divideProduct a b d mode = .ok n) : n = mode.round ((a : ℚ) * b / d) := by
  rw [divideProduct, divideProductOn_eq_roundWord _ ha hb hd nonzero,
    RoundingMode.roundWord] at h
  split_ifs at h
  cases h
  rfl

/-- Where there is a result, the divisor is not zero, and the result fits a word. -/
theorem exact_of_divideProduct {a b d n : Int} {mode : RoundingMode} (ha : FitsWord a)
    (hb : FitsWord b) (hd : FitsWord d) (h : divideProduct a b d mode = .ok n) :
    d ≠ 0 ∧ n = mode.round ((a : ℚ) * b / d) ∧ FitsWord n := by
  have nonzero : d ≠ 0 := by
    rintro rfl
    cases h
  rw [divideProduct, divideProductOn_eq_roundWord .installed ha hb hd nonzero] at h
  exact ⟨nonzero, RoundingMode.eq_round_of_roundWord h⟩

/-- There is a result where rounding is allowed and the rounded number fits a word. -/
theorem divideProduct_eq_ok {a b d : Int} {mode : RoundingMode} (ha : FitsWord a) (hb : FitsWord b)
    (hd : FitsWord d) (nonzero : d ≠ 0) (rounds : mode ≠ .unnecessary)
    (fits : FitsWord (mode.round ((a : ℚ) * b / d))) :
    divideProduct a b d mode = .ok (mode.round ((a : ℚ) * b / d)) := by
  rw [divideProduct, divideProductOn_eq_roundWord .installed ha hb hd nonzero,
    RoundingMode.roundWord, if_pos ⟨fits, .inl rounds⟩]

/-- A rounded quotient is the rounding of the exact quotient. -/
theorem divideRounded_eq_roundWord {a d : Int} (ha : FitsWord a) (nonzero : d ≠ 0)
    (mode : RoundingMode) : divideRounded a d mode = mode.roundWord ((a : ℚ) / d) := by
  have fits : (TruncatedQuotient.ofRatio a 1 d).whole < UInt64.size := by
    have hle : (TruncatedQuotient.ofRatio a 1 d).whole ≤ a.natAbs := by
      simpa [TruncatedQuotient.ofRatio] using Nat.div_le_self a.natAbs d.natAbs
    have hword : a.natAbs ≤ 0x8000000000000000 := by
      unfold FitsWord at ha
      omega
    exact (hle.trans hword).trans_lt (by decide)
  have hround := TruncatedQuotient.round_eq_roundWord
    (TruncatedQuotient.remainder_ofRatio_lt a 1 nonzero) fits mode
  rw [TruncatedQuotient.value_ofRatio a 1 nonzero, Int.cast_one, mul_one] at hround
  rw [divideRounded, if_neg nonzero, TruncatedQuotient.ofDivision_eq_ofRatio, hround]

/-- **Exactly rounded products and quotients.** For words `a`, `b` and `d` with `d` other than zero
the result is the rounding of the rational number `a * b / d`, if it fits a word and if either
rounding is allowed or the number is an integer; a number that is no integer and must not be
rounded is refused as such, as long as its integral part fits a word without a sign; in all other
cases the result is an overflow.  A zero divisor is always refused.  The division of two words is
the case of a factor one. -/
theorem divideProductOn_exact (backend : Backend) {a b d : Int} (ha : FitsWord a) (hb : FitsWord b)
    (hd : FitsWord d) (mode : RoundingMode) :
    (d ≠ 0 → divideProductOn backend a b d mode =
      let exact : ℚ := a * b / d
      if FitsWord (mode.round exact) ∧ (mode ≠ .unnecessary ∨ Int.fract exact = 0) then
        .ok (mode.round exact)
      else if mode = .unnecessary ∧ Int.fract exact ≠ 0 ∧ ⌊|exact|⌋ < UInt64.size then
        .error .roundingRequired
      else .error .overflow) ∧
    divideProductOn backend a b 0 mode = .error .divisionByZero ∧
    divideRounded a d mode = divideProductOn backend a 1 d mode := by
  refine ⟨fun nonzero => divideProductOn_eq_roundWord backend ha hb hd nonzero mode, rfl, ?_⟩
  by_cases nonzero : d = 0
  · subst nonzero
    rw [divideRounded_zero_right, divideProductOn_zero_divisor]
  · rw [divideRounded_eq_roundWord ha nonzero,
      divideProductOn_eq_roundWord backend ha (by decide) hd nonzero, Int.cast_one, mul_one]

/-- The least word times itself, divided by the least word: the exact number is the divisor, and
nothing is lost on the way through a product of twice the width. -/
theorem divideProductOn_exact_at_least_word :
    FitsWord (-0x8000000000000000) ∧
      divideProductOn .portable (-0x8000000000000000) (-0x8000000000000000) (-0x8000000000000000)
          .unnecessary = .ok (-0x8000000000000000) ∧
      divideRounded (-0x8000000000000000) (-0x8000000000000000) .unnecessary =
        divideProductOn .portable (-0x8000000000000000) 1 (-0x8000000000000000) .unnecessary := by
  have least : FitsWord (-0x8000000000000000) := by decide
  obtain ⟨value, -, scalar⟩ := divideProductOn_exact .portable least least least .unnecessary
  have ratio : (((-0x8000000000000000 : Int) : ℚ) * (-0x8000000000000000 : Int) /
      (-0x8000000000000000 : Int)) = (-0x8000000000000000 : Int) := by norm_num
  refine ⟨least, ?_, scalar⟩
  rw [value (by decide)]
  simp only [ratio, RoundingMode.round_intCast, Int.fract_intCast]
  rw [if_pos ⟨least, Or.inr trivial⟩]

end DecimalMoney
