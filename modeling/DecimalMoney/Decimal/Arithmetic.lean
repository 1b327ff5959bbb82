import DecimalMoney.Apportionment
import DecimalMoney.Decimal.Conversion

/-!
# Arithmetic of decimals

The result of an operation has the scale of its first operand, except that sums and differences
have the larger scale of both operands.  Products and quotients are rounded once.

## Main definitions

* `DecimalMoney.Decimal.negate`, `DecimalMoney.Decimal.abs` : signs.
* `DecimalMoney.Decimal.add`, `DecimalMoney.Decimal.subtract`, `DecimalMoney.Decimal.sumList`,
  `DecimalMoney.Decimal.commonSum` : sums.
* `DecimalMoney.Decimal.multiplyInt`, `DecimalMoney.Decimal.divideInt`,
  `DecimalMoney.Decimal.remainderInt` : integer factors and divisors.
* `DecimalMoney.Decimal.multiply`, `DecimalMoney.Decimal.divide`,
  `DecimalMoney.Decimal.multiplyRatio` : rounded products and quotients.
* `DecimalMoney.Decimal.round`, `DecimalMoney.Decimal.multiplyToPlaces`,
  `DecimalMoney.Decimal.divideToPlaces`, `DecimalMoney.Decimal.divideIntToPlaces` : results with
  fewer places than the scale.
-/

namespace DecimalMoney.Decimal

/-! ### Signs -/

/-- The decimal of opposite sign.  The new sign is not checked; no operation leads to the least word,
which has no opposite. -/
def negate (x : Decimal) : Decimal := x.setMantissa (-x.mantissa)

/-- The decimal without its sign. -/
def abs (x : Decimal) : Decimal := if x.mantissa < 0 then x.negate else x

@[simp] theorem negate_negate (x : Decimal) : x.negate.negate = x := by
  simp [negate, setMantissa]

/-! ### Sums -/

/-- The sum at the larger scale of both operands.  A zero does not count: the other operand is the
result as it is. -/
def add (x y : Decimal) : Except Failure Decimal :=
  if y.isZero then .ok x
  else if x.isZero then .ok y
  else if y.scale ≤ x.scale then do
    x.withMantissa (x.mantissa + (← rescale y.mantissa y.scale x.scale .unnecessary))
  else do
    y.withMantissa (y.mantissa + (← rescale x.mantissa x.scale y.scale .unnecessary))

/-- The difference, at the scale of the sum. -/
def subtract (x y : Decimal) : Except Failure Decimal := x.add y.negate

/-- The sum of all decimals in order, or nothing if there are none. -/
def sumList : List Decimal → Except Failure (Option Decimal)
  | [] => .ok none
  | x :: xs => do return some (← xs.foldlM add x)

/-- The largest scale of all decimals, zero if there are none. -/
def largestScale (xs : List Decimal) : Scale :=
  xs.foldl (fun s x => if s.1 ≤ x.scale then x.ownScale else s) integerScale

/-- The sum of decimals at their largest scale, with one added on request.  Partial sums have to fit
a word, and only the result has to fit eighteen digits. -/
def commonSum (xs : List Decimal) (withOne : Bool) : Except Failure Decimal := do
  let scale := largestScale xs
  let start : Int := if withOne then 10 ^ scale.1 else 0
  let sum ← xs.foldlM (fun sum x => do
    checkWord (sum + (← rescale x.mantissa x.scale scale.1 .unnecessary))) start
  ofUnits sum scale.1

/-- The sum of two decimals that are checked first. -/
def addChecked (x y : Decimal) : Except Failure Decimal := do (← x.checked).add (← y.checked)

/-- The difference of two decimals that are checked first. -/
def subtractChecked (x y : Decimal) : Except Failure Decimal := do
  (← x.checked).subtract (← y.checked)

/-- The decimal plus one. -/
def addOne (x : Decimal) : Except Failure Decimal := x.withMantissa (x.mantissa + x.unit)

/-- The decimal minus one. -/
def subtractOne (x : Decimal) : Except Failure Decimal := x.withMantissa (x.mantissa - x.unit)

/-! ### Integer factors and divisors -/

/-- The product with an integer. -/
def multiplyInt (x : Decimal) (factor : Int) : Except Failure Decimal :=
  if factor = 1 then .ok x
  else if factor = -1 then .ok x.negate
  else x.withMantissa (x.mantissa * factor)

/-- The quotient by an integer, truncated toward zero. -/
def divideInt (x : Decimal) (divisor : Int) : Except Failure Decimal :=
  if divisor = 0 then .error .divisionByZero
  else if divisor = 1 then .ok x
  else if divisor = -1 then .ok x.negate
  else .ok (x.setMantissa (x.mantissa.tdiv divisor))

/-- The remainder of the truncating division of the mantissa by an integer. -/
def remainderInt (x : Decimal) (divisor : Int) : Except Failure Decimal :=
  if divisor = 0 then .error .divisionByZero
  else if divisor = 1 ∨ divisor = -1 then .ok (.zero x.ownScale)
  else .ok (x.setMantissa (x.mantissa.tmod divisor))

/-! ### Products and quotients -/

/-- The product, rounded to the scale of the first factor. -/
def multiply (x y : Decimal) (mode : RoundingMode) : Except Failure Decimal :=
  if x.isZero || y.isZero then .ok (.zero x.ownScale)
  else if y.isOne then .ok x
  else if y.isMinusOne then .ok x.negate
  else do x.withMantissa (← multiplyScaled x.mantissa y.mantissa y.scale mode)

/-- The quotient, rounded to the scale of the dividend. -/
def divide (x y : Decimal) (mode : RoundingMode) : Except Failure Decimal :=
  if y.isZero then .error .divisionByZero
  else if x.isZero then .ok x
  else if y.isOne then .ok x
  else if y.isMinusOne then .ok x.negate
  else do x.withMantissa (← divideScaled x.mantissa y.scale y.mantissa mode)

/-- The decimal multiplied by a ratio of integers, rounded to its scale. -/
def multiplyRatio (x : Decimal) (numerator denominator : Int) (mode : RoundingMode) :
    Except Failure Decimal :=
  if denominator = 0 then .error .divisionByZero
  else if numerator = denominator then .ok x
  else do x.withMantissa (← divideProduct x.mantissa numerator denominator mode)

/-! ### Results with fewer places -/

/-- The decimal of the scale of `x` whose places after the first `digits` are zero, with the given
number of units of the last of these. -/
def withPlaces (x : Decimal) (units : Int) (digits : Nat) : Except Failure Decimal :=
  x.withMantissa (units * 10 ^ (x.scale - digits))

/-- The decimal rounded to a number of places, at its own scale. -/
def round (x : Decimal) (digits : Nat) (mode : RoundingMode) : Except Failure Decimal :=
  if x.scale ≤ digits ∨ x.isZero then .ok x
  else do
    x.withPlaces (← divideRounded x.mantissa (10 ^ (x.scale - digits)) mode) digits

/-- The product rounded to a number of places, at the scale of the first factor.  More places than
that scale has are not asked for. -/
def multiplyToPlaces (x y : Decimal) (digits : Nat) (mode : RoundingMode) :
    Except Failure Decimal :=
  if x.isZero || y.isZero then .ok (.zero x.ownScale)
  else do
    let digits := min digits x.scale
    let shift : Int := x.scale + y.scale - digits
    x.withPlaces (← multiplyScaled x.mantissa y.mantissa shift mode) digits

/-- The quotient rounded to a number of places, at the scale of the dividend.  Where the divisor has
so few places that the quotient has to be divided by a further power of ten, that power goes into
the divisor, which still has to fit a word. -/
def divideToPlaces (x y : Decimal) (digits : Nat) (mode : RoundingMode) :
    Except Failure Decimal :=
  if y.isZero then .error .divisionByZero
  else if x.isZero then .ok x
  else do
    let digits := min digits x.scale
    let shift : Int := y.scale + digits - x.scale
    let quotient ←
      if 0 ≤ shift then divideScaled x.mantissa shift y.mantissa mode
      else do
        divideProduct x.mantissa 1 (← checkWord (y.mantissa * (← powerOfTen (-shift)))) mode
    x.withPlaces quotient digits

/-- The quotient by an integer rounded to a number of places, at the scale of the dividend.  The
divisor, in units of the last of these places, has to fit a word. -/
def divideIntToPlaces (x : Decimal) (divisor : Int) (digits : Nat) (mode : RoundingMode) :
    Except Failure Decimal :=
  if divisor = 0 then .error .divisionByZero
  else do
    let digits := min digits x.scale
    let scaled ← checkWord (divisor * 10 ^ (x.scale - digits))
    x.withPlaces (← divideRounded x.mantissa scaled mode) digits

/-- Mantissas at a scale, expressed at the scale of `x`, so that a total and its parts still add
up. -/
def apportionTo (x : Decimal) (values : List Int) (source : Nat) : Except Failure (List Int) :=
  apportionScale values source x.scale

end DecimalMoney.Decimal
