import DecimalMoney.Proofs.Decimal.ProductQuotient
import DecimalMoney.Proofs.Decimal.Rescaling

/-!
# Results with fewer places

A product, a quotient or a value may be asked for with fewer places than the scale has that it is
kept at.  There is one rounding then, of the exact number in units of the last place that is asked
for, and zeros in the places behind it.  What differs between the operations is only where the power
of ten goes, and what is refused because that power or its product with the divisor is too large.

## Main definitions

* `DecimalMoney.Decimal.roundedTo` : an exact number rounded to a number of places.

## Main results

* `DecimalMoney.Decimal.round_eq`, `DecimalMoney.Decimal.multiplyToPlaces_eq`,
  `DecimalMoney.Decimal.divideToPlaces_eq`, `DecimalMoney.Decimal.divideIntToPlaces_eq` : the
  operations round the exact number once.
* `DecimalMoney.Decimal.productToPlaces_quotientToPlaces_exact` : products and quotients, with
  everything that is refused.
* `DecimalMoney.Decimal.divideIntToPlaces_decides` : quotients by an integer, which overflow if the
  divisor does.
-/

namespace DecimalMoney.Decimal

variable {x y z : Decimal} {digits : Nat} {mode : RoundingMode} {exact : ℚ}

/-- **An exact number rounded to a number of places**, of which no more are asked for than `x` has,
as a decimal of the scale of `x`: the places behind them are zeros. -/
def roundedTo (x : Decimal) (digits : Nat) (mode : RoundingMode) (exact : ℚ) :
    Except Failure Decimal :=
  (mode.roundPlaces (exact * 10 ^ min digits x.scale) (x.scale - digits)).map x.setMantissa

/-! ### Decimals of few places -/

/-- The places behind those that are asked for. -/
theorem scale_sub_min (x : Decimal) (digits : Nat) :
    x.scale - min digits x.scale = x.scale - digits := by
  rw [min_comm, tsub_min]

theorem placesAtMost_iff :
    x.placesAtMost digits = true ↔ (10 : Int) ^ (x.scale - digits) ∣ x.mantissa := by
  rw [placesAtMost, Bool.or_eq_true, decide_eq_true_iff, beq_iff_eq, ← Int.dvd_iff_tmod_eq_zero]
  refine ⟨fun h => h.elim (fun wide => ?_) id, Or.inr⟩
  rw [Nat.sub_eq_zero_of_le wide]
  exact one_dvd _

/-- More places leave room for fewer. -/
theorem placesAtMost_mono {more : Nat} (h : x.placesAtMost digits = true) (hle : digits ≤ more) :
    x.placesAtMost more = true :=
  placesAtMost_iff.2
    ((pow_dvd_pow 10 (Nat.sub_le_sub_left hle x.scale)).trans (placesAtMost_iff.1 h))

/-- The value in units of a place is an integer if the mantissa is that integer with zeros. -/
theorem value_mul_pow_eq_intCast_iff {n : Int} :
    x.value * 10 ^ min digits x.scale = n ↔ x.mantissa = n * 10 ^ (x.scale - digits) := by
  rw [value, div_ten_pow_mul_eq_intCast_iff (min_le_right digits x.scale), scale_sub_min]

theorem fract_value_mul_pow_eq_zero_iff :
    Int.fract (x.value * 10 ^ min digits x.scale) = 0 ↔ x.placesAtMost digits = true := by
  rw [Int.fract_eq_zero_iff, placesAtMost_iff]
  constructor
  · rintro ⟨n, hn⟩
    exact ⟨n, (value_mul_pow_eq_intCast_iff.1 hn.symm).trans (mul_comm _ _)⟩
  · rintro ⟨n, hn⟩
    exact ⟨n, (value_mul_pow_eq_intCast_iff.2 (hn.trans (mul_comm _ _))).symm⟩

/-! ### Rounding to places -/

theorem roundedTo_eq_ok_iff : x.roundedTo digits mode exact = .ok z ↔
    ∃ n, mode.roundPlaces (exact * 10 ^ min digits x.scale) (x.scale - digits) = .ok n ∧
      z = x.setMantissa n := by
  unfold roundedTo
  cases mode.roundPlaces (exact * 10 ^ min digits x.scale) (x.scale - digits) <;>
    simp [Except.map, eq_comm]

/-- What is rounded to places has no more of them, and eighteen digits. -/
theorem placesAtMost_of_roundedTo (h : x.roundedTo digits mode exact = .ok z) :
    z.placesAtMost digits = true ∧ FitsDigits z.mantissa := by
  obtain ⟨n, hn, rfl⟩ := roundedTo_eq_ok_iff.1 h
  obtain ⟨fits, -, rfl⟩ := RoundingMode.roundPlaces_eq_ok_iff.1 hn
  exact ⟨placesAtMost_iff.2 (dvd_mul_left _ _), fits⟩

/-- A value that has no more places stays as it is. -/
theorem roundedTo_value_eq_self (hx : FitsDigits x.mantissa) (h : x.placesAtMost digits = true)
    (mode : RoundingMode) : x.roundedTo digits mode x.value = .ok x := by
  obtain ⟨n, hn⟩ := placesAtMost_iff.1 h
  have units : x.mantissa = n * 10 ^ (x.scale - digits) := hn.trans (mul_comm _ _)
  rw [roundedTo, value_mul_pow_eq_intCast_iff.2 units, RoundingMode.roundPlaces_intCast, ← units,
    checkDigits_of_fitsDigits hx]
  rfl

theorem eq_zero_of_mantissa (h : x.mantissa = 0) : x = zero x.ownScale := by
  rw [zero, atScale, ← h]
  rfl

/-- Zero has no places at all. -/
theorem roundedTo_zero (x : Decimal) (digits : Nat) (mode : RoundingMode) :
    x.roundedTo digits mode 0 = .ok (zero x.ownScale) := by
  have hzero : (0 : ℚ) * 10 ^ min digits x.scale = (0 : Int) := by simp
  rw [roundedTo, hzero, RoundingMode.roundPlaces_intCast, zero_mul,
    checkDigits_of_fitsDigits fitsDigits_zero]
  rfl

/-- Places beyond those of `x` are not asked for. -/
theorem withPlaces_min (x : Decimal) (units : Int) (digits : Nat) :
    x.withPlaces units (min digits x.scale) = x.withPlaces units digits := by
  rw [withPlaces, withPlaces, scale_sub_min]

/-- **A rounded word that is given its zeros** is the exact number, rounded to places. -/
theorem roundWord_bind_withPlaces (x : Decimal) (digits : Nat) (mode : RoundingMode) (exact : ℚ) :
    (do x.withPlaces (← mode.roundWord (exact * 10 ^ min digits x.scale)) digits) =
      x.roundedTo digits mode exact := by
  rw [roundedTo, ← RoundingMode.roundWord_bind_checkPlaces]
  cases mode.roundWord (exact * 10 ^ min digits x.scale) <;> rfl

/-- A rounded product and quotient of words, with its zeros. -/
theorem divideProduct_bind_withPlaces {a b d : Int} (ha : FitsWord a) (hb : FitsWord b)
    (hd : FitsWord d) (nonzero : d ≠ 0) (mode : RoundingMode)
    (h : exact * 10 ^ min digits x.scale = (a : ℚ) * b / d) :
    (do x.withPlaces (← divideProduct a b d mode) digits) = x.roundedTo digits mode exact := by
  rw [divideProduct, divideProductOn_eq_roundWord .installed ha hb hd nonzero, ← h,
    roundWord_bind_withPlaces]

/-- A rounded quotient of words, with its zeros. -/
theorem divideRounded_bind_withPlaces {a d : Int} (ha : FitsWord a) (nonzero : d ≠ 0)
    (mode : RoundingMode) (h : exact * 10 ^ min digits x.scale = (a : ℚ) / d) :
    (do x.withPlaces (← divideRounded a d mode) digits) = x.roundedTo digits mode exact := by
  rw [divideRounded_eq_roundWord ha nonzero, ← h, roundWord_bind_withPlaces]

/-! ### Values -/

/-- **A value rounded to places**, also where it has no more of them and is not looked at. -/
theorem round_eq (hx : FitsDigits x.mantissa) (digits : Nat) (mode : RoundingMode) :
    x.round digits mode = x.roundedTo digits mode x.value := by
  unfold round
  split_ifs with unchanged
  · have few : x.placesAtMost digits = true := by
      rcases unchanged with wide | zero
      · simp [placesAtMost, wide]
      · simp [placesAtMost, isZero_iff.1 zero]
    exact (roundedTo_value_eq_self hx few mode).symm
  · have fewer : digits ≤ x.scale := (not_le.1 fun wide => unchanged (.inl wide)).le
    apply divideRounded_bind_withPlaces hx.fitsWord (ten_pow_pos _).ne'
    rw [min_eq_left fewer]
    exact div_ten_pow_mul_of_le x.mantissa fewer

/-! ### Products and quotients -/

/-- A product that is to lose more than eighteen places is an overflow. -/
theorem multiplyToPlaces_eq_overflow (hx : x.mantissa ≠ 0) (hy : y.mantissa ≠ 0)
    (far : maxScale < x.scale + y.scale - min digits x.scale) (mode : RoundingMode) :
    x.multiplyToPlaces y digits mode = .error .overflow := by
  have shift : (x.scale + y.scale - (min digits x.scale : Nat) : Int) =
      (x.scale + y.scale - min digits x.scale : Nat) := by omega
  rw [multiplyToPlaces, if_neg (by simp [hx, hy])]
  simp only [shift, multiplyScaled, powerOfTen_of_lt far]
  rfl

/-- A quotient by a divisor that does not fit a word, in units of the place, is an overflow. -/
theorem divideToPlaces_eq_overflow (hx : x.mantissa ≠ 0) (hy : y.mantissa ≠ 0)
    (fewer : y.scale + min digits x.scale < x.scale)
    (large : ¬FitsWord (y.mantissa * 10 ^ (x.scale - y.scale - min digits x.scale)))
    (mode : RoundingMode) : x.divideToPlaces y digits mode = .error .overflow := by
  have shift : -(y.scale + (min digits x.scale : Nat) - x.scale : Int) =
      (x.scale - y.scale - min digits x.scale : Nat) := by omega
  have near : x.scale - y.scale - min digits x.scale ≤ maxScale := by
    have := x.scale_le
    omega
  rw [divideToPlaces, if_neg (by simp [hy]), if_neg (by simp [hx])]
  dsimp only
  rw [if_neg (by omega), shift, powerOfTen_natCast near, ok_bind, checkWord_of_not_fitsWord large]
  rfl

section Words

variable (hx : FitsWord x.mantissa) (hy : FitsWord y.mantissa)

include hx hy

/-- **A product rounded to places**, where there is a power of ten for the places that go. -/
theorem multiplyToPlaces_eq (near : x.scale + y.scale - min digits x.scale ≤ maxScale)
    (mode : RoundingMode) :
    x.multiplyToPlaces y digits mode = x.roundedTo digits mode (x.value * y.value) := by
  unfold multiplyToPlaces
  split_ifs with zero
  · rw [Bool.or_eq_true, isZero_iff, isZero_iff] at zero
    have hvalue : x.value * y.value = 0 := by
      rcases zero with hzero | hzero <;> simp [value_eq_zero_iff.2 hzero]
    rw [hvalue, roundedTo_zero]
  · have shift : (x.scale + y.scale - (min digits x.scale : Nat) : Int) =
        (x.scale + y.scale - min digits x.scale : Nat) := by omega
    simp only [withPlaces_min, shift, multiplyScaled, powerOfTen_natCast near, ok_bind]
    exact divideProduct_bind_withPlaces hx hy (fitsWord_ten_pow near) (ten_pow_pos _).ne' mode
      (value_mul_value_mul_pow (by omega))

/-- **A quotient rounded to places**, where the divisor fits a word with the power of ten that it is
given, if it is given one. -/
theorem divideToPlaces_eq (nonzero : y.mantissa ≠ 0)
    (fits : y.scale + min digits x.scale < x.scale →
      FitsWord (y.mantissa * 10 ^ (x.scale - y.scale - min digits x.scale)))
    (mode : RoundingMode) :
    x.divideToPlaces y digits mode = x.roundedTo digits mode (x.value / y.value) := by
  have hscale := x.scale_le
  have hscale' := y.scale_le
  unfold divideToPlaces
  dsimp only
  split_ifs with zeroDivisor zero longer
  · exact absurd (isZero_iff.1 zeroDivisor) nonzero
  · rw [value_eq_zero_iff.2 (isZero_iff.1 zero), zero_div, roundedTo_zero]
    exact congrArg Except.ok (eq_zero_of_mantissa (isZero_iff.1 zero))
  · have shift : (y.scale + (min digits x.scale : Nat) - x.scale : Int) =
        (y.scale + min digits x.scale - x.scale : Nat) := by omega
    have near : y.scale + min digits x.scale - x.scale ≤ maxScale := by omega
    simp only [withPlaces_min, shift, divideScaled, powerOfTen_natCast near, ok_bind]
    exact divideProduct_bind_withPlaces hx (fitsWord_ten_pow near) hy nonzero mode
      (value_div_value_mul_pow (by omega))
  · have shift : -(y.scale + (min digits x.scale : Nat) - x.scale : Int) =
        (x.scale - y.scale - min digits x.scale : Nat) := by omega
    have near : x.scale - y.scale - min digits x.scale ≤ maxScale := by omega
    have word := fits (by omega)
    simp only [withPlaces_min, shift, powerOfTen_natCast near, ok_bind, checkWord_of_fitsWord word]
    apply divideProduct_bind_withPlaces hx (by decide) word
      (mul_ne_zero nonzero (ten_pow_pos _).ne')
    rw [Int.cast_one, mul_one]
    exact value_div_value_mul_pow_of_lt (by omega)

/-- **Products and quotients with fewer places are rounded once.** The product of two decimals other
than zero is the exact product, rounded to the places that are asked for, with the failures of that
rounding, as long as there is a power of ten for the places that it loses on the way; if these are
more than eighteen it is an overflow.  With a factor zero it is zero.  A quotient is the exact
quotient, rounded in the same way, and there is no bound on the places; but where the divisor takes
up the power of ten, it has to fit a word with it, or the quotient is an overflow.  A zero divisor
is refused, also for a zero dividend, which is otherwise the quotient. -/
theorem productToPlaces_quotientToPlaces_exact (digits : Nat) (mode : RoundingMode) :
    (x.mantissa = 0 ∨ y.mantissa = 0 →
      x.multiplyToPlaces y digits mode = .ok (zero x.ownScale)) ∧
    (x.mantissa ≠ 0 → y.mantissa ≠ 0 → x.multiplyToPlaces y digits mode =
      if x.scale + y.scale - min digits x.scale ≤ maxScale then
        x.roundedTo digits mode (x.value * y.value)
      else .error .overflow) ∧
    (y.mantissa = 0 → x.divideToPlaces y digits mode = .error .divisionByZero) ∧
    (x.mantissa = 0 → y.mantissa ≠ 0 →
      x.divideToPlaces y digits mode = .ok (zero x.ownScale)) ∧
    (x.mantissa ≠ 0 → y.mantissa ≠ 0 → x.divideToPlaces y digits mode =
      if y.scale + min digits x.scale < x.scale ∧
          ¬FitsWord (y.mantissa * 10 ^ (x.scale - y.scale - min digits x.scale)) then
        .error .overflow
      else x.roundedTo digits mode (x.value / y.value)) := by
  refine ⟨fun zero => ?_, fun hx0 hy0 => ?_, fun hy0 => ?_, fun hx0 hy0 => ?_, fun hx0 hy0 => ?_⟩
  · rw [multiplyToPlaces, if_pos (by simpa using zero)]
  · split_ifs with near
    · exact multiplyToPlaces_eq hx hy near mode
    · exact multiplyToPlaces_eq_overflow hx0 hy0 (not_le.1 near) mode
  · rw [divideToPlaces, if_pos (isZero_iff.2 hy0)]
  · rw [divideToPlaces, if_neg (by simp [hy0]), if_pos (isZero_iff.2 hx0),
      ← eq_zero_of_mantissa hx0]
  · split_ifs with large
    · exact divideToPlaces_eq_overflow hx0 hy0 large.1 large.2 mode
    · exact divideToPlaces_eq hx hy hy0 (by tauto) mode

end Words

/-- The product of `2.000005` and `3`, which loses places without a tie, and their quotient, for
which the divisor takes up a power of ten. -/
theorem productToPlaces_quotientToPlaces_exact_of_thirds :
    ∃ x y : Decimal, FitsWord x.mantissa ∧ FitsWord y.mantissa ∧ x.mantissa ≠ 0 ∧ y.mantissa ≠ 0 ∧
      x.scale + y.scale - min 2 x.scale ≤ maxScale ∧ y.scale + min 2 x.scale < x.scale ∧
      FitsWord (y.mantissa * 10 ^ (x.scale - y.scale - min 2 x.scale)) ∧
      x.roundedTo 2 .up (x.value * y.value) = .ok (x.setMantissa 6010000) ∧
      x.roundedTo 2 .up (x.value / y.value) = .ok (x.setMantissa 670000) := by
  let x : Decimal := ⟨2000005, 6, by decide⟩
  let y : Decimal := ⟨3, 0, by decide⟩
  have hx : FitsWord x.mantissa := by decide
  have hy : FitsWord y.mantissa := by decide
  have word : FitsWord (y.mantissa * 10 ^ (x.scale - y.scale - min 2 x.scale)) := by decide
  have product : x.multiplyToPlaces y 2 .up = .ok (x.setMantissa 6010000) := by decide +kernel
  have quotient : x.divideToPlaces y 2 .up = .ok (x.setMantissa 670000) := by decide +kernel
  obtain ⟨-, hproduct, -, -, hquotient⟩ := productToPlaces_quotientToPlaces_exact hx hy 2 .up
  rw [hproduct (by decide) (by decide), if_pos (by decide)] at product
  rw [hquotient (by decide) (by decide), if_neg fun large => large.2 word] at quotient
  exact ⟨x, y, hx, hy, by decide, by decide, by decide, by decide, word, product, quotient⟩

/-! ### Quotients by integers -/

/-- A value divided by an integer, in units of a place. -/
theorem value_div_intCast_mul_pow (x : Decimal) (divisor : Int) (digits : Nat) :
    x.value / divisor * 10 ^ min digits x.scale =
      x.mantissa / ((divisor * 10 ^ (x.scale - digits) : Int) : ℚ) := by
  have hvalue : value ⟨divisor, 0, by decide⟩ = divisor := by simp [value]
  rw [← hvalue]
  exact value_div_value_mul_pow_of_lt (by dsimp only; omega)

/-- **A quotient by an integer rounded to places**, where the divisor fits a word with its zeros. -/
theorem divideIntToPlaces_eq (hx : FitsWord x.mantissa) {divisor : Int} (nonzero : divisor ≠ 0)
    (fits : FitsWord (divisor * 10 ^ (x.scale - digits))) (mode : RoundingMode) :
    x.divideIntToPlaces divisor digits mode = x.roundedTo digits mode (x.value / divisor) := by
  rw [divideIntToPlaces, if_neg nonzero]
  simp only [withPlaces_min, scale_sub_min, checkWord_of_fitsWord fits, ok_bind]
  exact divideRounded_bind_withPlaces hx (mul_ne_zero nonzero (ten_pow_pos _).ne') mode
    (value_div_intCast_mul_pow x divisor digits)

/-- It is an overflow otherwise. -/
theorem divideIntToPlaces_eq_overflow {divisor : Int} (nonzero : divisor ≠ 0)
    (large : ¬FitsWord (divisor * 10 ^ (x.scale - digits))) (mode : RoundingMode) :
    x.divideIntToPlaces divisor digits mode = .error .overflow := by
  rw [divideIntToPlaces, if_neg nonzero]
  simp only [scale_sub_min, checkWord_of_not_fitsWord large]
  rfl

/-- An integer of eighteen digits is small before one that does not fit a word. -/
theorem abs_div_lt_ninth {m n : Int} (hm : FitsDigits m) (hn : ¬FitsWord n) :
    |(m : ℚ) / n| < 1 / 9 := by
  have hm' : |m| < 10 ^ 18 := by
    unfold FitsDigits maxMantissa maxScale at hm
    rw [abs_lt]
    omega
  have hn' : (0x8000000000000000 : Int) ≤ |n| := by
    unfold FitsWord at hn
    rw [le_abs]
    omega
  have hm'' : |(m : ℚ)| < 10 ^ 18 := by exact_mod_cast hm'
  have hn'' : (0x8000000000000000 : ℚ) ≤ |(n : ℚ)| := by exact_mod_cast hn'
  rw [abs_div, div_lt_div_iff₀ (by linarith) (by norm_num)]
  linarith

/-- **Quotients by integers are as large as their divisors let them.** The quotient of a decimal of
eighteen digits by an integer other than zero is the exact quotient, rounded once, if the divisor
fits a word in units of the last place that is asked for.  It is an overflow otherwise, though
nothing is large then but the divisor: the exact quotient is less than a ninth of such a unit.  So
of the roundings that have eighteen digits those are found, and no others, for which the divisor
fits. -/
theorem divideIntToPlaces_decides (hx : FitsDigits x.mantissa) {divisor : Int}
    (nonzero : divisor ≠ 0) (digits : Nat) (mode : RoundingMode) :
    (FitsWord (divisor * 10 ^ (x.scale - digits)) →
      x.divideIntToPlaces divisor digits mode = x.roundedTo digits mode (x.value / divisor)) ∧
    (¬FitsWord (divisor * 10 ^ (x.scale - digits)) →
      x.divideIntToPlaces divisor digits mode = .error .overflow ∧
      |x.value / divisor * 10 ^ min digits x.scale| < 1 / 9) ∧
    (mode ≠ .unnecessary → ∀ rounded,
      rounded = mode.round (x.value / divisor * 10 ^ min digits x.scale) * 10 ^ (x.scale - digits) →
      FitsDigits rounded →
      (x.divideIntToPlaces divisor digits mode = .ok (x.setMantissa rounded) ↔
        FitsWord (divisor * 10 ^ (x.scale - digits)))) := by
  refine ⟨fun fits => divideIntToPlaces_eq hx.fitsWord nonzero fits mode, fun large =>
    ⟨divideIntToPlaces_eq_overflow nonzero large mode, ?_⟩, ?_⟩
  · rw [value_div_intCast_mul_pow]
    exact abs_div_lt_ninth hx large
  · rintro rounds _ rfl digitsFit
    constructor
    · intro found
      by_contra large
      rw [divideIntToPlaces_eq_overflow nonzero large] at found
      cases found
    · intro fits
      rw [divideIntToPlaces_eq hx.fitsWord nonzero fits]
      exact roundedTo_eq_ok_iff.2
        ⟨_, RoundingMode.roundPlaces_eq_ok_iff.2 ⟨digitsFit, .inl rounds, rfl⟩, rfl⟩

/-- Zero divided by an integer is zero, in every mode. -/
theorem round_zero_div (scale : Scale) (divisor : Int) (digits : Nat) (mode : RoundingMode) :
    mode.round ((zero scale).value / divisor * 10 ^ digits) = 0 := by
  rw [value_eq_zero_iff.2 (rfl : (zero scale).mantissa = 0), zero_div, zero_mul,
    RoundingMode.round_zero]

/-- Two thirds with three places, and zero at scale eighteen by the largest divisor of one digit,
which fits with its zeros. -/
theorem divideIntToPlaces_decides_of_thirds :
    ∃ x y : Decimal, FitsDigits x.mantissa ∧ FitsWord (3 * 10 ^ (x.scale - 3)) ∧
      x.roundedTo 3 .halfEven (x.value / (3 : Int)) = .ok (x.setMantissa 667000) ∧
      FitsDigits y.mantissa ∧ FitsWord (9 * 10 ^ (y.scale - 0)) ∧
      y.divideIntToPlaces 9 0 .up = .ok (y.setMantissa 0) := by
  let x : Decimal := ⟨2000000, 6, by decide⟩
  let y : Decimal := zero ⟨18, by decide⟩
  have hx : FitsDigits x.mantissa := by decide
  have hy : FitsDigits y.mantissa := fitsDigits_zero
  have three : FitsWord (3 * 10 ^ (x.scale - 3)) := by decide
  have nine : FitsWord (9 * 10 ^ (y.scale - 0)) := by decide
  have quotient : x.divideIntToPlaces 3 3 .halfEven = .ok (x.setMantissa 667000) := by
    decide +kernel
  have rounded : (0 : Int) =
      RoundingMode.up.round (y.value / (9 : Int) * 10 ^ min 0 y.scale) * 10 ^ (y.scale - 0) := by
    rw [round_zero_div, zero_mul]
  obtain ⟨found, -⟩ := divideIntToPlaces_decides hx (by decide : (3 : Int) ≠ 0) 3 .halfEven
  obtain ⟨-, -, exactly⟩ := divideIntToPlaces_decides hy (by decide : (9 : Int) ≠ 0) 0 .up
  exact ⟨x, y, hx, three, (found three).symm.trans quotient, hy, nine,
    (exactly (by decide) 0 rounded fitsDigits_zero).2 nine⟩

/-- Zero divided by ten is zero in every mode, and the quotient of decimals finds it so; but at
scale eighteen the quotient by the integer overflows if no places are asked for. -/
theorem exists_divideIntToPlaces_overflow :
    ∃ (x : Decimal) (divisor : Int) (digits : Nat), FitsDigits x.mantissa ∧ FitsWord divisor ∧
      divisor ≠ 0 ∧ ∀ mode : RoundingMode,
        FitsDigits (mode.round (x.value / divisor * 10 ^ min digits x.scale) *
          10 ^ (x.scale - digits)) ∧
        x.divideIntToPlaces divisor digits mode = .error .overflow ∧
        x.divideToPlaces ⟨divisor, 0, by decide⟩ digits mode = .ok x := by
  refine ⟨zero ⟨18, by decide⟩, 10, 0, fitsDigits_zero, by decide, by decide, fun mode =>
    ⟨?_, ?_, ?_⟩⟩
  · rw [round_zero_div, zero_mul]
    exact fitsDigits_zero
  · exact divideIntToPlaces_eq_overflow (by decide) (by decide) mode
  · rfl

end DecimalMoney.Decimal
