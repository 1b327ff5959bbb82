import DecimalMoney.Rounding.Division
import DecimalMoney.Wide.Backend

/-!
# Rounded products and quotients

The number `a * b / d`, rounded once, with the whole product in between.  A backend supplies
quotient and remainder of the magnitudes; the sign and the rounding are done here, so that they do
not depend on the backend.

## Main definitions

* `DecimalMoney.TruncatedQuotient.ofProduct` : the truncated quotient of `a * b / d`.
* `DecimalMoney.divideProductOn` : `a * b / d` rounded, on a given backend.
* `DecimalMoney.divideProduct` : `a * b / d` rounded, on the installed backend.
* `DecimalMoney.multiplyScaled`, `DecimalMoney.divideScaled` : the cases where the divisor or
  a factor is a power of ten.
-/

namespace DecimalMoney

/-- The magnitude of an integer as a word; exact for every signed word. -/
def magnitudeWord (n : Int) : UInt64 := UInt64.ofNat n.natAbs

theorem toNat_magnitudeWord {n : Int} (h : FitsWord n) : (magnitudeWord n).toNat = n.natAbs := by
  unfold FitsWord at h
  rw [magnitudeWord, UInt64.toNat_ofNat']
  omega

/-- The truncated quotient of `a * b / divisor`, an overflow where its whole part does not fit a
word. -/
def TruncatedQuotient.ofProduct (backend : Backend) (a b divisor : Int) :
    Except Failure TruncatedQuotient :=
  if divisor = 0 then .error .divisionByZero
  else
    let d := magnitudeWord divisor
    match backend.productDivision (magnitudeWord a) (magnitudeWord b) d with
    | none => .error .overflow
    | some (quotient, remainder) => .ok {
        negative := (decide (a < 0) != decide (b < 0)) != decide (divisor < 0)
        whole := quotient.toNat
        remainder := remainder.toNat
        divisor := d.toNat }

/-- The number `a * b / divisor`, rounded to an integer on the given backend. -/
def divideProductOn (backend : Backend) (a b divisor : Int) (mode : RoundingMode) :
    Except Failure Int :=
  if divisor = 0 then .error .divisionByZero
  else if a = 0 ∨ b = 0 then .ok 0
  else do (← TruncatedQuotient.ofProduct backend a b divisor).round mode

/-- The number `a * b / divisor`, rounded to an integer. -/
def divideProduct (a b divisor : Int) (mode : RoundingMode) : Except Failure Int :=
  divideProductOn .installed a b divisor mode

/-- The number `a * b / 10 ^ exponent`, rounded to an integer. -/
def multiplyScaled (a b exponent : Int) (mode : RoundingMode) : Except Failure Int := do
  divideProduct a b (← powerOfTen exponent) mode

/-- The number `a * 10 ^ exponent / divisor`, rounded to an integer. -/
def divideScaled (a exponent divisor : Int) (mode : RoundingMode) : Except Failure Int := do
  divideProduct a (← powerOfTen exponent) divisor mode

@[simp] theorem divideProductOn_zero_divisor (backend : Backend) (a b : Int) (mode : RoundingMode) :
    divideProductOn backend a b 0 mode = .error .divisionByZero := rfl

/-- What is left of a product after its division is a word. -/
theorem fitsWord_of_divideProduct {a b divisor n : Int} {mode : RoundingMode}
    (h : divideProduct a b divisor mode = .ok n) : FitsWord n := by
  unfold divideProduct divideProductOn at h
  split at h
  · cases h
  · split at h
    · cases h
      decide
    · obtain ⟨_, _, h⟩ := bind_eq_ok_iff.1 h
      exact TruncatedQuotient.fitsWord_of_round h

/-- A product with a factor zero is zero, whatever the mode. -/
theorem divideProductOn_of_eq_zero (backend : Backend) {a b divisor : Int} (nonzero : divisor ≠ 0)
    (zero : a = 0 ∨ b = 0) (mode : RoundingMode) :
    divideProductOn backend a b divisor mode = .ok 0 := by
  simp [divideProductOn, nonzero, zero]

end DecimalMoney
