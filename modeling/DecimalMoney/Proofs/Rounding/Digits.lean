import DecimalMoney.Proofs.Wide.ProductQuotient

/-!
# Rounding to eighteen digits

A product or quotient of words is rounded to a word first, and its digits are counted then.  Both
steps together are one rounding of the exact number: of the two ways to overflow the second one
covers the first, and it is symmetric about zero, which the words are not.

## Main definitions

* `DecimalMoney.RoundingMode.roundDigits` : the rounding to eighteen digits, with its failures.
* `DecimalMoney.RoundingMode.roundPlaces` : the same, with zeros behind the rounded number.

## Main results

* `DecimalMoney.RoundingMode.roundWord_bind_checkDigits`,
  `DecimalMoney.RoundingMode.roundWord_bind_checkPlaces` : both steps together.
* `DecimalMoney.RoundingMode.roundDigits_intCast` : an integer is only checked.
* `DecimalMoney.RoundingMode.roundDigits_reflect_neg` : the reflected mode rounds the opposite
  number, and fails as the mode does.
* `DecimalMoney.divideProduct_bind_checkDigits` : checked products and quotients of words.
-/

namespace DecimalMoney

namespace RoundingMode

/-- **The rounding of a number to eighteen digits.** It is the rounded number if that has at most
eighteen digits and may be used; a number that must not be rounded is refused, if its integral part
fits a word of 64 bits without a sign; all else is an overflow. -/
def roundDigits (mode : RoundingMode) (x : ℚ) : Except Failure Int :=
  if FitsDigits (mode.round x) ∧ (mode ≠ unnecessary ∨ Int.fract x = 0) then .ok (mode.round x)
  else if mode = unnecessary ∧ Int.fract x ≠ 0 ∧ ⌊|x|⌋ < UInt64.size then .error .roundingRequired
  else .error .overflow

/-- **The rounding of a number whose units end in zeros.** It is the rounded number with these zeros
behind it, if that has at most eighteen digits and may be used; the failures are those of
`roundDigits`. -/
def roundPlaces (mode : RoundingMode) (x : ℚ) (zeros : Nat) : Except Failure Int :=
  if FitsDigits (mode.round x * 10 ^ zeros) ∧ (mode ≠ unnecessary ∨ Int.fract x = 0) then
    .ok (mode.round x * 10 ^ zeros)
  else if mode = unnecessary ∧ Int.fract x ≠ 0 ∧ ⌊|x|⌋ < UInt64.size then .error .roundingRequired
  else .error .overflow

@[simp] theorem roundPlaces_zero (mode : RoundingMode) (x : ℚ) :
    mode.roundPlaces x 0 = mode.roundDigits x := by
  simp [roundPlaces, roundDigits]

/-- Where there is a result, rounding is allowed and the digits fit. -/
theorem roundPlaces_eq_ok_iff {mode : RoundingMode} {x : ℚ} {zeros : Nat} {n : ℤ} :
    mode.roundPlaces x zeros = .ok n ↔
      FitsDigits n ∧ (mode ≠ unnecessary ∨ Int.fract x = 0) ∧ n = mode.round x * 10 ^ zeros := by
  unfold roundPlaces
  split_ifs with fits
  · simp only [Except.ok.injEq]
    constructor
    · rintro rfl
      exact ⟨fits.1, fits.2, rfl⟩
    · exact fun h => h.2.2.symm
  all_goals
    simp only [false_iff]
    rintro ⟨digits, allowed, rfl⟩
    exact fits ⟨digits, allowed⟩

theorem fitsDigits_of_roundDigits {mode : RoundingMode} {x : ℚ} {n : ℤ}
    (h : mode.roundDigits x = .ok n) : FitsDigits n := by
  rw [← roundPlaces_zero] at h
  exact (roundPlaces_eq_ok_iff.1 h).1

/-- Where the rounded number has eighteen digits, these are all that is asked for. -/
theorem roundWord_eq_roundDigits {mode : RoundingMode} {x : ℚ} (h : FitsDigits (mode.round x)) :
    mode.roundWord x = mode.roundDigits x := by
  simp only [roundWord, roundDigits, h, h.fitsWord, true_and]

/-- **A rounded word that is given zeros, and whose digits are checked then**, is the rounding with
these zeros. -/
theorem roundWord_bind_checkPlaces (mode : RoundingMode) (x : ℚ) (zeros : Nat) :
    (do checkDigits ((← mode.roundWord x) * 10 ^ zeros)) = mode.roundPlaces x zeros := by
  by_cases allowed : mode ≠ unnecessary ∨ Int.fract x = 0
  · have unforced : ¬(mode = unnecessary ∧ Int.fract x ≠ 0 ∧ ⌊|x|⌋ < UInt64.size) := by tauto
    simp only [roundWord, roundPlaces, allowed, and_true, unforced, if_false]
    by_cases word : FitsWord (mode.round x)
    · rw [if_pos word]
      rfl
    · rw [if_neg word, if_neg fun digits : FitsDigits _ =>
        word digits.of_mul_ten_pow.fitsWord]
      rfl
  · simp only [roundWord, roundPlaces, allowed, and_false, if_false]
    split_ifs <;> rfl

/-- **A rounded word whose digits are checked** is the rounding to eighteen digits. -/
theorem roundWord_bind_checkDigits (mode : RoundingMode) (x : ℚ) :
    (mode.roundWord x >>= checkDigits) = mode.roundDigits x := by
  have without := mode.roundWord_bind_checkPlaces x 0
  simp only [pow_zero, mul_one, roundPlaces_zero] at without
  exact without

/-- The digits may be checked before the zeros are there, too. -/
theorem roundDigits_bind_checkPlaces (mode : RoundingMode) (x : ℚ) (zeros : Nat) :
    (do checkDigits ((← mode.roundDigits x) * 10 ^ zeros)) = mode.roundPlaces x zeros := by
  rw [← roundWord_bind_checkPlaces, ← roundWord_bind_checkDigits, bind_assoc]
  refine bind_congr fun n => ?_
  by_cases digits : FitsDigits n
  · rw [checkDigits_of_fitsDigits digits]
    rfl
  · rw [checkDigits_eq_overflow_iff.2 digits,
      checkDigits_eq_overflow_iff.2 (mt FitsDigits.of_mul_ten_pow digits)]
    rfl

/-- An integer is only checked, with its zeros. -/
@[simp] theorem roundPlaces_intCast (mode : RoundingMode) (n : ℤ) (zeros : Nat) :
    mode.roundPlaces n zeros = checkDigits (n * 10 ^ zeros) := by
  simp [roundPlaces, checkDigits]

/-- An integer is only checked. -/
@[simp] theorem roundDigits_intCast (mode : RoundingMode) (n : ℤ) :
    mode.roundDigits n = checkDigits n := by
  simp [roundDigits, checkDigits]

@[simp] theorem reflect_eq_unnecessary_iff {mode : RoundingMode} :
    mode.reflect = unnecessary ↔ mode = unnecessary := by
  cases mode <;> simp [reflect]

/-- **Reflection.** The reflected mode makes of the opposite number the opposite of what the mode
makes of the number, or it fails alike. -/
theorem roundDigits_reflect_neg (mode : RoundingMode) (x : ℚ) :
    mode.reflect.roundDigits (-x) = (mode.roundDigits x).map Neg.neg := by
  have hround : mode.reflect.round (-x) = -mode.round x := by rw [round_neg, reflect_reflect]
  simp only [roundDigits, hround, fitsDigits_neg_iff, reflect_eq_unnecessary_iff, ne_eq,
    Int.fract_neg_eq_zero, abs_neg]
  split_ifs <;> rfl

end RoundingMode

/-- **A product and quotient of words whose digits are checked** is the exact number, rounded to
eighteen digits. -/
theorem divideProduct_bind_checkDigits {a b d : Int} (ha : FitsWord a) (hb : FitsWord b)
    (hd : FitsWord d) (nonzero : d ≠ 0) (mode : RoundingMode) :
    (divideProduct a b d mode >>= checkDigits) = mode.roundDigits ((a : ℚ) * b / d) := by
  rw [divideProduct, divideProductOn_eq_roundWord .installed ha hb hd nonzero,
    RoundingMode.roundWord_bind_checkDigits]

end DecimalMoney
