import DecimalMoney.Apportionment
import DecimalMoney.Currency.Basic
import DecimalMoney.Decimal.Conversion

/-!
# Amounts of money

An amount has a gross value and, optionally, a breakdown into components that add up to it: the net
value first, then the taxes.  All of them are mantissas at the scale of the currency.

## Main definitions

* `DecimalMoney.Amount` : gross value and components in a currency.
* `DecimalMoney.Amount.checkBalance` : the components, if any, add up to the gross value.
* `DecimalMoney.Amount.ofMantissas`, `DecimalMoney.Amount.ofDecimal` : checked construction.
* `DecimalMoney.Amount.add`, `DecimalMoney.Amount.subtract`, `DecimalMoney.Amount.negate`,
  `DecimalMoney.Amount.multiplyInt` : exact arithmetic, component by component.
-/

namespace DecimalMoney

/-- A gross value in a currency, with its breakdown. -/
structure Amount where
  /-- The currency. -/
  currency : Currency
  /-- The gross value, in minor units. -/
  gross : Int
  /-- Net value and taxes, in minor units; empty without a breakdown. -/
  components : List Int
  deriving DecidableEq, Repr

namespace Amount

/-! ### Construction -/

/-- Refuses an amount whose components do not add up to its gross value.  The sum and its difference
from the gross value have to fit a word. -/
def checkBalance (a : Amount) : Except Failure Unit :=
  if a.components = [] then .ok ()
  else do
    let missing ← checkWord (a.gross - (← wordSum a.components))
    if missing = 0 then .ok () else .error (.sumMismatch a.gross (a.gross - missing))

/-- The amount with the given gross value and components. -/
def ofMantissas (currency : Currency) (gross : Int) (components : List Int) :
    Except Failure Amount := do
  let amount : Amount :=
    { currency, gross := ← checkDigits gross, components := ← components.mapM checkDigits }
  amount.checkBalance
  return amount

/-- The amount of a value without a breakdown.  The value must not have more places than the
currency. -/
def ofDecimal (value : Decimal) (currency : Currency) : Except Failure Amount := do
  return {
    currency
    gross := ← rescale value.mantissa value.scale currency.decimals .unnecessary
    components := [] }

/-! ### Parts -/

/-- A mantissa of the amount as a decimal. -/
def decimalOf (a : Amount) (mantissa : Int) : Decimal := .atScale mantissa a.currency.scale

/-- The gross value as a decimal. -/
def grossValue (a : Amount) : Decimal := a.decimalOf a.gross

/-- The net value as a decimal, if there is a breakdown. -/
def net? (a : Amount) : Option Decimal := a.components.head?.map a.decimalOf

/-- The taxes, in minor units and in the order in which they were applied. -/
def taxes (a : Amount) : List Int := a.components.tail

/-- The amount has components. -/
def hasBreakdown (a : Amount) : Bool := !a.components.isEmpty

/-! ### Exact arithmetic -/

/-- Zero in the same currency, with as many components. -/
def cleared (a : Amount) : Amount :=
  { a with gross := 0, components := a.components.map fun _ => 0 }

/-- The amount of opposite sign.  The new signs are not checked: the least word, which a tax may be,
has no opposite. -/
def negate (a : Amount) : Except Failure Amount := do
  let gross ← trapWord (-a.gross)
  let components ← a.components.mapM fun c => trapWord (-c)
  return { a with gross, components }

/-- An operation on the gross values and on the components of two amounts, which have to be in the
same currency and to have the same number of components. -/
def zipWith (op : Int → Int → Int) (a b : Amount) : Except Failure Amount :=
  if a.currency ≠ b.currency then .error (.invalidCurrency .mismatch)
  else if a.components.length ≠ b.components.length then .error .scaleMismatch
  else do
    let gross ← checkDigits (op a.gross b.gross)
    let components ← (a.components.zip b.components).mapM fun c => checkDigits (op c.1 c.2)
    return { currency := a.currency, gross, components }

/-- The sum of two amounts. -/
def add : Amount → Amount → Except Failure Amount := zipWith (· + ·)

/-- The difference of two amounts. -/
def subtract : Amount → Amount → Except Failure Amount := zipWith (· - ·)

/-- The product with an integer. -/
def multiplyInt (a : Amount) (factor : Int) : Except Failure Amount :=
  if factor = 1 then .ok a
  else do
    let components ← a.components.mapM fun c => checkDigits (c * factor)
    return { currency := a.currency, gross := ← checkDigits (a.gross * factor), components }

end Amount

end DecimalMoney
