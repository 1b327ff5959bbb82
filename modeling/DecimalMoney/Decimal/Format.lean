import DecimalMoney.Decimal.Arithmetic
import DecimalMoney.Numeral.Reader
import DecimalMoney.Numeral.Writer

/-!
# Formats of decimals

Some values have a scale that belongs to their kind, such as a price in hundredths; others bring
their own.  A `Format` says which, and with it how a decimal is read and written: a value of fixed
scale need not show places that are zero, since its kind tells the scale, while a value of free
scale shows all of them, so that reading it restores the scale.

## Main definitions

* `DecimalMoney.Format` : fixed or free scale.
* `DecimalMoney.Format.Admits` : which decimals have a scale that the format allows.
* `DecimalMoney.Format.parse`, `DecimalMoney.Format.render` : text of a decimal.
* `DecimalMoney.Format.describe` : text for diagnostics.
* `DecimalMoney.Format.ofInteger`, `DecimalMoney.Format.ofLong` : other sources of a value.
-/

namespace DecimalMoney

/-- How the scale of a value is determined. -/
inductive Format where
  /-- Every value has this scale. -/
  | fixed (scale : Scale)
  /-- Every value has a scale of its own. -/
  | free
  deriving DecidableEq, Repr

namespace Decimal

/-- The decimal at the given scale that a text denotes. -/
def parseAt (text : String) (places : Nat) : Except Failure Decimal := do
  let scale ← checkScale places
  return atScale (← readMantissa text.toList scale.1) scale

/-- The decimal that a text denotes, at the scale that the text shows. -/
def parseShown (text : String) : Except Failure Decimal := do
  let (mantissa, scale) ← readShown text.toList
  return atScale mantissa scale

/-- The text of a decimal. -/
def render (x : Decimal) (places : Places) : String :=
  String.ofList (writeScaled x.mantissa x.scale places)

end Decimal

namespace LongDecimal

/-- The text of a decimal of many digits, with all its places. -/
def render (x : LongDecimal) : String := String.ofList (writeScaled x.mantissa x.scale .all)

end LongDecimal

namespace Format

/-- The decimal is a value of the format, as far as its scale goes. -/
def Admits : Format → Decimal → Prop
  | fixed scale, x => x.scale = scale.1
  | free, _ => True

instance : (format : Format) → (x : Decimal) → Decidable (format.Admits x)
  | fixed scale, x => inferInstanceAs (Decidable (x.scale = scale.1))
  | free, _ => inferInstanceAs (Decidable True)

/-- Which places the format shows: a fixed scale is known without them. -/
def places : Format → Places
  | fixed _ => .needed
  | free => .all

/-- The decimal that a text denotes in the format. -/
def parse : Format → String → Except Failure Decimal
  | fixed scale, text => Decimal.parseAt text scale.1
  | free, text => Decimal.parseShown text

/-- The text of a decimal in the format. -/
def render (format : Format) (x : Decimal) : String := x.render format.places

/-- The text of a decimal for diagnostics: its text in the format, and what that does not show. -/
def describe (format : Format) (x : Decimal) : String :=
  match format with
  | fixed scale => s!"FixedDecimal<{scale.1}>({format.render x}, raw={x.mantissa})"
  | free => s!"VariableUnits({format.render x}, scale={x.scale})"

/-- An integer in the format; without places where the scale is free. -/
def ofInteger : Format → Int → Except Failure Decimal
  | fixed scale, n => Decimal.ofInteger n scale
  | free, n => Decimal.ofInteger n integerScale

/-- A decimal of many digits in the format; a free scale is that of the source. -/
def ofLong : Format → LongDecimal → Except Failure Decimal
  | fixed scale, x => Decimal.ofLongAt x scale
  | free, x => Decimal.ofLong x

end Format

end DecimalMoney
