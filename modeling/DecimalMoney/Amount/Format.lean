import DecimalMoney.Amount.Basic
import DecimalMoney.Numeral.Writer

/-!
# Text of amounts

An amount is written with all digits of the minor unit, followed by the code of the currency and,
in brackets, by the components if there are any: `19.99 EUR [16.80, 3.19]`.

## Main definitions

* `DecimalMoney.Amount.render` : the text of an amount.
* `DecimalMoney.Amount.describe` : its text for diagnostics.
-/

namespace DecimalMoney.Amount

/-- The text of a mantissa of the amount. -/
def renderMantissa (a : Amount) (mantissa : Int) : String :=
  String.ofList (writeScaled mantissa a.currency.decimals .all)

/-- The components in brackets, nothing if there are none. -/
def renderBreakdown (a : Amount) : String :=
  if a.components = [] then ""
  else " [" ++ String.intercalate ", " (a.components.map a.renderMantissa) ++ "]"

/-- The text of an amount. -/
def render (a : Amount) : String :=
  a.renderMantissa a.gross ++ " " ++ a.currency.code ++ a.renderBreakdown

/-- The text of an amount for diagnostics. -/
def describe (a : Amount) : String := "MonetaryAmount(" ++ a.render ++ ")"

end DecimalMoney.Amount
