import DecimalMoney.Bounds
import DecimalMoney.Rounding.Mode

/-!
# Rounded division

A division is done on magnitudes first, toward zero; what it leaves is a `TruncatedQuotient`.  A
rounding mode then decides whether the magnitude moves on to the next integer.  Every division of
the library is rounded here.

## Main definitions

* `DecimalMoney.TruncatedQuotient` : sign, whole part and remainder of a quotient.
* `DecimalMoney.TruncatedQuotient.movesAway` : rounding moves the magnitude away from zero.
* `DecimalMoney.TruncatedQuotient.round` : the rounded quotient, as a signed word.
* `DecimalMoney.divideRounded` : the rounded quotient of two integers.

## Main results

* `DecimalMoney.TruncatedQuotient.movesAway_eq_false_of_remainder` : an exact quotient stays.
* `DecimalMoney.TruncatedQuotient.round_eq` : a mode that rounds yields the whole part or the
  next integer, with the sign of the quotient, if that fits a word.
* `DecimalMoney.natAbs_le_of_divideRounded`, `DecimalMoney.divideRounded_nonneg` : bounds of a
  rounded quotient.
-/

namespace DecimalMoney

/-- The integer of the given sign and magnitude. -/
def signed (negative : Bool) (magnitude : Nat) : Int :=
  if negative then -(magnitude : Int) else magnitude

@[simp] theorem natAbs_signed (negative : Bool) (n : Nat) : (signed negative n).natAbs = n := by
  cases negative <;> simp [signed]

/-- A quotient of sign `negative` and magnitude `whole + remainder / divisor`. -/
structure TruncatedQuotient where
  /-- The exact quotient is below zero, or is a zero computed from operands of unequal sign. -/
  negative : Bool
  /-- The integral part of the magnitude. -/
  whole : Nat
  /-- What is left over, below `divisor`. -/
  remainder : Nat
  /-- The magnitude of the divisor. -/
  divisor : Nat
  deriving DecidableEq, Repr

namespace TruncatedQuotient

/-- The quotient of two integers, truncated toward zero. -/
def ofDivision (dividend divisor : Int) : TruncatedQuotient where
  negative := (dividend < 0) != (divisor < 0)
  whole := dividend.natAbs / divisor.natAbs
  remainder := dividend.natAbs % divisor.natAbs
  divisor := divisor.natAbs

/-- The quotient is an integer. -/
def IsExact (q : TruncatedQuotient) : Prop := q.remainder = 0

instance (q : TruncatedQuotient) : Decidable q.IsExact := inferInstanceAs (Decidable (_ = _))

/-- Whether rounding moves the magnitude on to the next integer.  The modes that round to nearest
compare the remainder with `divisor - remainder`, the distance to that integer. -/
def movesAway (q : TruncatedQuotient) (mode : RoundingMode) : Bool :=
  if q.remainder = 0 then false
  else
    let rest := q.divisor - q.remainder
    match mode with
    | .up => true
    | .down => false
    | .ceiling => !q.negative
    | .floor => q.negative
    | .halfUp => decide (rest ≤ q.remainder)
    | .halfDown => decide (rest < q.remainder)
    | .halfEven => decide (rest < q.remainder) || (q.remainder == rest && q.whole % 2 == 1)
    | .unnecessary => false

/-- The magnitude of the rounded quotient. -/
def roundedMagnitude (q : TruncatedQuotient) (mode : RoundingMode) : Nat :=
  if q.movesAway mode then q.whole + 1 else q.whole

/-- The rounded quotient.  Where no rounding is allowed an inexact quotient is refused, before the
size of the result is looked at. -/
def round (q : TruncatedQuotient) (mode : RoundingMode) : Except Failure Int :=
  if mode = .unnecessary ∧ q.remainder ≠ 0 then .error .roundingRequired
  else checkWord (signed q.negative (q.roundedMagnitude mode))

theorem movesAway_eq_false_of_remainder {q : TruncatedQuotient} (h : q.remainder = 0)
    (mode : RoundingMode) : q.movesAway mode = false := by
  simp [movesAway, h]

theorem roundedMagnitude_eq (q : TruncatedQuotient) (mode : RoundingMode) :
    q.roundedMagnitude mode = q.whole ∨ q.roundedMagnitude mode = q.whole + 1 := by
  unfold roundedMagnitude
  split <;> simp

/-- The magnitude of a rounded quotient is at most one above the whole part. -/
theorem natAbs_le_of_round {q : TruncatedQuotient} {mode : RoundingMode} {n : Int}
    (h : q.round mode = .ok n) : n.natAbs ≤ q.whole + 1 := by
  unfold round at h
  split at h
  · cases h
  · obtain ⟨_, rfl⟩ := checkWord_eq_ok_iff.1 h
    rw [natAbs_signed]
    rcases q.roundedMagnitude_eq mode with h | h <;> omega

/-- A rounded quotient is a word. -/
theorem fitsWord_of_round {q : TruncatedQuotient} {mode : RoundingMode} {n : Int}
    (h : q.round mode = .ok n) : FitsWord n := by
  unfold round at h
  split at h
  · cases h
  · obtain ⟨fits, rfl⟩ := checkWord_eq_ok_iff.1 h
    exact fits

/-- A mode that rounds yields the rounded magnitude with the sign of the quotient. -/
theorem round_eq {mode : RoundingMode} (h : mode ≠ .unnecessary) (q : TruncatedQuotient) :
    q.round mode = checkWord (signed q.negative (q.roundedMagnitude mode)) := by
  simp [round, h]

end TruncatedQuotient

/-- The quotient of two integers, rounded to an integer. -/
def divideRounded (dividend divisor : Int) (mode : RoundingMode) : Except Failure Int :=
  if divisor = 0 then .error .divisionByZero
  else (TruncatedQuotient.ofDivision dividend divisor).round mode

/-- A quotient that is rounded stays within one of the truncated magnitude. -/
theorem natAbs_le_of_divideRounded {dividend divisor n : Int} {mode : RoundingMode}
    (h : divideRounded dividend divisor mode = .ok n) :
    n.natAbs ≤ dividend.natAbs / divisor.natAbs + 1 := by
  unfold divideRounded at h
  split at h
  · cases h
  · exact TruncatedQuotient.natAbs_le_of_round h

/-- A quotient of numbers that are not negative is not. -/
theorem divideRounded_nonneg {dividend divisor n : Int} {mode : RoundingMode} (hm : 0 ≤ dividend)
    (hd : 0 < divisor) (h : divideRounded dividend divisor mode = .ok n) : 0 ≤ n := by
  have sign : (TruncatedQuotient.ofDivision dividend divisor).negative = false := by
    simp [TruncatedQuotient.ofDivision, Int.not_lt.2 hm, Int.not_lt.2 (Int.le_of_lt hd)]
  rw [divideRounded, if_neg (Int.ne_of_gt hd), TruncatedQuotient.round] at h
  split at h
  · cases h
  · obtain ⟨_, rfl⟩ := checkWord_eq_ok_iff.1 h
    rw [sign]
    exact Int.natCast_nonneg _

@[simp] theorem divideRounded_zero_right (dividend : Int) (mode : RoundingMode) :
    divideRounded dividend 0 mode = .error .divisionByZero := rfl

end DecimalMoney
