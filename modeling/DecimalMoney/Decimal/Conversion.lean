import DecimalMoney.Decimal.Basic

/-!
# Conversions of decimals

A decimal at another scale, decimals of many digits, and binary floats.

## Main definitions

* `DecimalMoney.Decimal.checked` : a decimal whose mantissa has been checked.
* `DecimalMoney.Decimal.withScale` : the same value at another scale, rounded if need be.
* `DecimalMoney.Decimal.widen` : the same value at a scale that is not smaller.
* `DecimalMoney.Decimal.hundredth` : the hundredth part.
* `DecimalMoney.LongDecimal` : a decimal of any number of digits, as a source or target.
* `DecimalMoney.Decimal.ofFloat`, `DecimalMoney.Decimal.toFloat` : binary floats.
-/

namespace DecimalMoney

namespace Decimal

/-! ### Scales -/

/-- The decimal itself, if its mantissa has at most eighteen digits. -/
def checked (x : Decimal) : Except Failure Decimal := ofUnits x.mantissa x.scale

/-- The value at another scale, rounded by `mode` if places are lost. -/
def withScale (x : Decimal) (places : Nat) (mode : RoundingMode) : Except Failure Decimal := do
  let scale ← checkScale places
  return atScale (← rescale x.mantissa x.scale scale.1 mode) scale

/-- The value at a scale that does not lose places; losing places is refused even if they are
zero. -/
def widen (x : Decimal) (scale : Scale) : Except Failure Decimal :=
  if scale.1 < x.scale then .error .roundingRequired
  else x.withScale scale.1 .unnecessary

/-- The hundredth part of a decimal, at a scale larger by two.  Where there is no such scale the
places that do not fit are cut off. -/
def hundredth (x : Decimal) : Except Failure Decimal :=
  if x.scale = maxScale then ofUnits (x.mantissa.tdiv 100) maxScale
  else if x.scale + 1 = maxScale then ofUnits (x.mantissa.tdiv 10) maxScale
  else ofUnits x.mantissa (x.scale + 2)

/-- The smaller of two decimals, checked. -/
def minChecked (x y : Decimal) : Except Failure Decimal := do (← x.min y).checked

/-- The larger of two decimals, checked. -/
def maxChecked (x y : Decimal) : Except Failure Decimal := do (← x.max y).checked

end Decimal

/-! ### Decimals of many digits -/

/-- The number `mantissa / 10 ^ scale`, of any number of digits and places. -/
structure LongDecimal where
  /-- The number in units of its last place. -/
  mantissa : Int
  /-- The number of places after the point. -/
  scale : Nat
  deriving DecidableEq, Repr

namespace Decimal

/-- The decimal with all its digits. -/
def toLong (x : Decimal) : LongDecimal := ⟨x.mantissa, x.scale⟩

/-- The decimal of the same mantissa and scale. -/
def ofLong (x : LongDecimal) : Except Failure Decimal := ofUnits x.mantissa x.scale

/-- The decimal of the same value at a scale.  Digits that the scale does not show have to be
zero. -/
def ofLongAt (x : LongDecimal) (scale : Scale) : Except Failure Decimal :=
  if x.scale ≤ scale.1 then do
    return atScale (← checkDigits (x.mantissa * 10 ^ (scale.1 - x.scale))) scale
  else if x.mantissa.tmod (10 ^ (x.scale - scale.1)) ≠ 0 then .error .roundingRequired
  else do
    return atScale (← checkDigits (x.mantissa.tdiv (10 ^ (x.scale - scale.1)))) scale

/-! ### Binary floats -/

/-- A signed word as a binary float, rounded to nearest. -/
def intToFloat (n : Int) : Float := (Int64.ofInt n).toFloat

/-- The decimal at a scale that is nearest to a binary float.  The product with the unit is taken as
a float; half a unit goes away from zero. -/
def ofFloat (value : Float) (scale : Scale) : Except Failure Decimal :=
  if ¬ value.isFinite then .error (.malformedNumber .notFinite)
  else
    let units := (value * intToFloat (10 ^ scale.1)).round
    if intToFloat maxMantissa < units.abs then .error .overflow
    else do
      return atScale (← checkDigits units.toInt64.toInt) scale

/-- The decimal as a binary float, from one division of floats. -/
def toFloat (x : Decimal) : Float := intToFloat x.mantissa / intToFloat x.unit

end Decimal

end DecimalMoney
