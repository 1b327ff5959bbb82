import DecimalMoney.Amount.Basic
import DecimalMoney.Decimal.Basic

/-!
# Scaling of amounts

An amount multiplied by a ratio, by a decimal factor or by an exchange rate.  Without a breakdown
the gross value is rounded once; with one the rounding errors are distributed, so that the
components still add up.

## Main definitions

* `DecimalMoney.Amount.scaleTo` : the amount times a ratio, in a currency.
* `DecimalMoney.Amount.multiplyRatio`, `DecimalMoney.Amount.multiplyDecimal` : the amount times a
  ratio of integers or a decimal.
* `DecimalMoney.Amount.convert` : the amount in another currency.
-/

namespace DecimalMoney.Amount

/-- The minor units multiplied by a ratio, as an amount in the given currency. -/
def scaleTo (a : Amount) (currency : Currency) (numerator denominator : Int)
    (mode : RoundingMode) : Except Failure Amount :=
  if a.components = [] then do
    let gross ← checkDigits (← divideProduct a.gross numerator denominator mode)
    return { currency, gross, components := [] }
  else do
    let scaled ← apportion (a.gross :: a.components) numerator denominator mode
    return { currency, gross := scaled.headD 0, components := scaled.tail }

/-- The amount multiplied by a ratio of integers. -/
def multiplyRatio (a : Amount) (numerator denominator : Int) (mode : RoundingMode) :
    Except Failure Amount :=
  if denominator = 0 then .error .divisionByZero
  else if numerator = denominator then .ok a
  else a.scaleTo a.currency numerator denominator mode

/-- The amount multiplied by a decimal, with ties to even. -/
def multiplyDecimal (a : Amount) (factor : Decimal) : Except Failure Amount :=
  if factor.isOne then .ok a
  else if factor.isMinusOne then a.negate
  else if factor.isZero then .ok a.cleared
  else if factor.scale = 0 then a.multiplyInt factor.mantissa
  else a.scaleTo a.currency factor.mantissa factor.unit .halfEven

/-- The amount in another currency at an exchange rate.  The scale of the rate and the digits of
both minor units make one power of ten, so that there is at most one rounding, with ties to even. -/
def convert (a : Amount) (rate : Decimal) (currency : Currency) : Except Failure Amount :=
  let shift : Int := (rate.scale + a.currency.decimals : Nat) - currency.decimals
  if 0 < shift then do
    a.scaleTo currency rate.mantissa (← powerOfTen shift) .halfEven
  else do
    let factor ← checkWord (rate.mantissa * (← powerOfTen (-shift)))
    return { ← a.multiplyInt factor with currency }

end DecimalMoney.Amount
