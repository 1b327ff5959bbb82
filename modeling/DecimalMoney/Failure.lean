/-!
# Failures

This file lists the ways in which an operation on decimals, currencies or amounts can fail.  A
failure is a cause; the sentence that reports it is made in one place, `Failure.message`.

Most steps on words check their result and report an overflow.  The few that do not are done by
arithmetic that traps: where they leave the words, the operation stops with an overrun, for which
there is no report.

## Main definitions

* `DecimalMoney.NumeralFault` : what is wrong with something that should denote a number.
* `DecimalMoney.CurrencyFault` : what is wrong with a currency.
* `DecimalMoney.Failure` : the cause of a failed operation.
* `DecimalMoney.Failure.message` : the sentence that reports a failure.

## Main results

* `DecimalMoney.bind_eq_ok_iff` : a sequence of two steps succeeds when both steps do.
-/

namespace DecimalMoney

/-- What is wrong with something that should denote a number or a rounding mode. -/
inductive NumeralFault where
  /-- Nothing is left once the blanks at both ends are removed. -/
  | emptyInput
  /-- There is no digit on either side of the point. -/
  | noDigits
  /-- A sign follows the point. -/
  | signInFraction
  /-- Something other than a digit stands before the point. -/
  | integralDigits
  /-- Something other than a digit stands after the point. -/
  | fractionalDigits
  /-- A digit other than zero stands beyond the last place of the wanted scale. -/
  | excessDigits
  /-- The scale cannot be read off, since more places follow the point than any scale has. -/
  | longFraction
  /-- The fraction of a pair of integral and fractional part is not below one. -/
  | fractionOutOfRange
  /-- A binary float is infinite or not a number. -/
  | notFinite
  /-- No rounding mode has this name. -/
  | unknownMode
  deriving DecidableEq, Repr

/-- What is wrong with a currency. -/
inductive CurrencyFault where
  /-- The code is not made of three upper-case letters. -/
  | malformedCode
  /-- The minor unit has more than six digits. -/
  | excessiveDecimals
  /-- The source of currency data does not know the code. -/
  | unknownCode
  /-- Two amounts that should be combined are in different currencies. -/
  | mismatch
  deriving DecidableEq, Repr

/-- The cause of a failed operation. -/
inductive Failure where
  /-- A mantissa has more than eighteen digits, or a scale is above eighteen. -/
  | overflow
  /-- The divisor is zero. -/
  | divisionByZero
  /-- A value is not exact at the wanted scale and no rounding is allowed. -/
  | roundingRequired
  /-- Two operands differ in their number of components, or a breakdown stands where none may. -/
  | scaleMismatch
  /-- Something that should denote a number does not. -/
  | malformedNumber (fault : NumeralFault)
  /-- The components of an amount add up to `sum` and not to `gross`. -/
  | sumMismatch (gross sum : Int)
  /-- A currency is not acceptable. -/
  | invalidCurrency (fault : CurrencyFault)
  /-- A step that nothing checks has left the words or a table, and the arithmetic has trapped. -/
  | overrun
  deriving DecidableEq, Repr

/-- The detail that a report on a malformed number ends with. -/
def NumeralFault.detail : NumeralFault → String
  | emptyInput => "empty input"
  | noDigits => "no digits"
  | signInFraction => "sign inside fractional digits"
  | integralDigits => "invalid integral digits"
  | fractionalDigits => "invalid fractional digits"
  | excessDigits => "too many significant fractional digits"
  | longFraction => "more than 18 fractional digits"
  | fractionOutOfRange => "fraction out of range"
  | notFinite => "not a finite number"
  | unknownMode => "unknown rounding mode"

/-- The detail that a report on a currency ends with. -/
def CurrencyFault.detail : CurrencyFault → String
  | malformedCode => "code must be three upper-case letters"
  | excessiveDecimals => "more than six decimals"
  | unknownCode => "unknown currency code"
  | mismatch => "currencies don't match"

/-- The sentence that reports a failure.  Nothing is said about an overrun, which stops the
operation where it stands. -/
def Failure.message : Failure → String
  | overflow => "arithmetic overflow: result exceeded 18 significant digits"
  | divisionByZero => "division by zero"
  | roundingRequired => "rounding required but forbidden"
  | scaleMismatch => "operands differ in scale, currency or breakdown"
  | malformedNumber fault => "malformed number: " ++ fault.detail
  | sumMismatch gross sum => s!"sum of components ({sum}) does not match gross ({gross})"
  | invalidCurrency fault => "invalid currency: " ++ fault.detail
  | overrun => ""

/-- After a step that succeeds the next step follows. -/
theorem ok_bind {ε α β : Type} (a : α) (f : α → Except ε β) : (Except.ok a >>= f) = f a := rfl

/-- A sequence of two steps succeeds when both steps do. -/
theorem bind_eq_ok_iff {ε α β : Type} {x : Except ε α} {f : α → Except ε β} {b : β} :
    x >>= f = .ok b ↔ ∃ a, x = .ok a ∧ f a = .ok b := by
  cases x <;> simp [bind, Except.bind]

end DecimalMoney
