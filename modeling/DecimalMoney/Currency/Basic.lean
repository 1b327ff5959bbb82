import DecimalMoney.Bounds
import DecimalMoney.Text.Blank

/-!
# Currencies

A currency is a code of three upper-case letters with the number of digits of its minor unit, which
is the scale of amounts in it.  What a code stands for is looked up in a source of currency data.

## Main definitions

* `DecimalMoney.IsCurrencyCode` : three upper-case letters.
* `DecimalMoney.Currency` : a code and a number of digits.
* `DecimalMoney.CurrencySource` : what is known about codes.
* `DecimalMoney.Currency.ofCode`, `DecimalMoney.Currency.lookup` : checked construction.

## Main results

* `DecimalMoney.Currency.ofCode_self` : a currency is made from its own code and digits.
-/

namespace DecimalMoney

/-- The most digits that a minor unit can have. -/
def maxCurrencyDecimals : Nat := 6

/-- The text consists of three upper-case letters of the Latin alphabet. -/
def IsCurrencyCode (code : String) : Prop :=
  code.toList.length = 3 ∧ code.toList.all Char.isUpper = true

instance (code : String) : Decidable (IsCurrencyCode code) :=
  inferInstanceAs (Decidable (_ ∧ _))

/-- A currency. -/
structure Currency where
  /-- Three upper-case letters. -/
  code : String
  /-- The number of digits of the minor unit. -/
  decimals : Nat
  isCode : IsCurrencyCode code
  decimals_le : decimals ≤ maxCurrencyDecimals
  deriving DecidableEq, Repr

/-- What is known about currency codes. -/
structure CurrencySource where
  /-- The number of digits of the minor unit of a code. -/
  decimals : String → Option Nat
  /-- The numeric code, where the source knows it. -/
  numericCode : String → Option Nat := fun _ => none

namespace Currency

/-- The currency of a code with the given number of digits. -/
def ofCode (code : String) (decimals : Nat) : Except Failure Currency :=
  if isCode : IsCurrencyCode code then
    if decimals_le : decimals ≤ maxCurrencyDecimals then
      .ok { code, decimals, isCode, decimals_le }
    else .error (.invalidCurrency .excessiveDecimals)
  else .error (.invalidCurrency .malformedCode)

/-- The currency that a source knows under a code. -/
def lookup (code : String) (source : CurrencySource) : Except Failure Currency :=
  match source.decimals code with
  | some decimals => ofCode code decimals
  | none => .error (.invalidCurrency .unknownCode)

/-- A currency is made from its own code and digits. -/
@[simp] theorem ofCode_self (c : Currency) : ofCode c.code c.decimals = .ok c := by
  simp [ofCode, c.isCode, c.decimals_le]

/-- The scale of amounts in a currency. -/
def scale (c : Currency) : Scale :=
  ⟨c.decimals, Nat.le_trans c.decimals_le (by decide)⟩

/-- The text of a currency for diagnostics. -/
def describe (c : Currency) : String := s!"Currency({c.code}, decimals={c.decimals})"

end Currency

end DecimalMoney
