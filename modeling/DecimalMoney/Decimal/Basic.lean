import DecimalMoney.Scaling

/-!
# Decimals

A decimal is a mantissa of at most eighteen digits with a scale: the number of places after the
point.  The value `1` has a mantissa at every scale, also at scale eighteen, where it is one beyond
what arithmetic produces; for that reason the bound on the mantissa is checked by the operations
and not part of the type.

## Main definitions

* `DecimalMoney.Decimal` : a mantissa and a scale.
* `DecimalMoney.Decimal.ofUnits`, `DecimalMoney.Decimal.ofInteger`, `DecimalMoney.Decimal.ofParts`:
  checked construction.
* `DecimalMoney.Decimal.zero`, `DecimalMoney.Decimal.one`, `DecimalMoney.Decimal.largest` :
  constants of a scale.
* `DecimalMoney.Decimal.compare` : the numeric order, across scales.
* `DecimalMoney.Decimal.integerPart`, `DecimalMoney.Decimal.fractionalPart` : the two parts.
-/

namespace DecimalMoney

/-- The number `mantissa / 10 ^ scale`.  Equality is that of mantissa and scale, so `2.0` and `2.00`
are different decimals of the same value. -/
structure Decimal where
  /-- The number in units of its last place. -/
  mantissa : Int
  /-- The number of places after the point. -/
  scale : Nat
  /-- There are at most eighteen places. -/
  scale_le : scale ≤ maxScale := by decide
  deriving DecidableEq, Repr

namespace Decimal

/-! ### Construction -/

/-- The decimal of the given mantissa at the scale of `x`, whatever its size. -/
def setMantissa (x : Decimal) (mantissa : Int) : Decimal := { x with mantissa }

/-- The decimal of the given mantissa at the scale of `x`. -/
def withMantissa (x : Decimal) (mantissa : Int) : Except Failure Decimal := do
  return x.setMantissa (← checkDigits mantissa)

/-- The decimal of a mantissa at a scale. -/
def atScale (mantissa : Int) (scale : Scale) : Decimal := ⟨mantissa, scale.1, scale.2⟩

/-- The decimal of a mantissa at a number of places; both are checked, the places first. -/
def ofUnits (mantissa : Int) (places : Nat) : Except Failure Decimal := do
  let scale ← checkScale places
  return atScale (← checkDigits mantissa) scale

/-- An integer at a scale. -/
def ofInteger (n : Int) (scale : Scale) : Except Failure Decimal := do
  return atScale (← checkDigits (n * 10 ^ scale.1)) scale

/-- The decimal with the given integral part, and places that count away from zero. -/
def ofParts (integral : Int) (fraction : Nat) (scale : Scale) : Except Failure Decimal :=
  if 10 ^ scale.1 ≤ fraction then .error (.malformedNumber .fractionOutOfRange)
  else do
    let places : Int := if integral < 0 then -fraction else fraction
    return atScale (← checkDigits (integral * 10 ^ scale.1 + places)) scale

/-- Zero at a scale. -/
def zero (scale : Scale) : Decimal := atScale 0 scale

/-- One at a scale. -/
def one (scale : Scale) : Decimal := atScale (10 ^ scale.1) scale

/-- Minus one at a scale. -/
def minusOne (scale : Scale) : Decimal := atScale (-10 ^ scale.1) scale

/-- The largest decimal of a scale. -/
def largest (scale : Scale) : Decimal := atScale maxMantissa scale

/-- The smallest decimal of a scale. -/
def smallest (scale : Scale) : Decimal := atScale (-maxMantissa) scale

/-- Zero without places. -/
instance : Inhabited Decimal := ⟨zero integerScale⟩

@[simp] theorem mantissa_setMantissa (x : Decimal) (m : Int) : (x.setMantissa m).mantissa = m := rfl

@[simp] theorem scale_setMantissa (x : Decimal) (m : Int) : (x.setMantissa m).scale = x.scale := rfl

theorem withMantissa_eq_ok_iff {x y : Decimal} {m : Int} :
    x.withMantissa m = .ok y ↔ FitsDigits m ∧ y = x.setMantissa m := by
  unfold withMantissa checkDigits
  split <;> simp_all [bind, Except.bind, pure, Except.pure, eq_comm]

/-! ### Parts -/

/-- The mantissa of one at the scale of `x`. -/
def unit (x : Decimal) : Int := 10 ^ x.scale

/-- The scale of a decimal, with its bound. -/
def ownScale (x : Decimal) : Scale := ⟨x.scale, x.scale_le⟩

/-- One unit in the last place of `x`. -/
def lastPlace (x : Decimal) : Decimal := x.setMantissa 1

/-- The integral part, truncated toward zero. -/
def integerPart (x : Decimal) : Int := x.mantissa.tdiv x.unit

/-- The places after the point, without their sign. -/
def fractionalPart (x : Decimal) : Nat := (x.mantissa.tmod x.unit).natAbs

/-- The integral part as a signed integer of 32 bits. -/
def toInt32 (x : Decimal) : Except Failure Int :=
  if -0x80000000 ≤ x.integerPart ∧ x.integerPart < 0x80000000 then .ok x.integerPart
  else .error .overflow

theorem unit_pos (x : Decimal) : 0 < x.unit := ten_pow_pos x.scale

/-- The parts of a decimal make up its mantissa. -/
theorem integerPart_mul_unit (x : Decimal) :
    x.integerPart * x.unit + x.mantissa.tmod x.unit = x.mantissa := by
  rw [integerPart, Int.mul_comm]
  exact Int.mul_tdiv_add_tmod x.mantissa x.unit

/-! ### Properties -/

/-- The value is zero. -/
def isZero (x : Decimal) : Bool := x.mantissa == 0

/-- The value is one. -/
def isOne (x : Decimal) : Bool := x.mantissa == x.unit

/-- The value is minus one. -/
def isMinusOne (x : Decimal) : Bool := x.mantissa == -x.unit

/-- The value is below zero. -/
def isNegative (x : Decimal) : Bool := decide (x.mantissa < 0)

/-- The value is above zero. -/
def isPositive (x : Decimal) : Bool := decide (0 < x.mantissa)

/-- The value is an integer. -/
def isIntegral (x : Decimal) : Bool := x.mantissa.tmod x.unit == 0

/-- The mantissa has at most the given number of digits.  Every mantissa counts as within more
than eighteen. -/
def digitsAtMost (x : Decimal) (digits : Nat) : Bool :=
  decide (maxScale < digits) || decide (x.mantissa.natAbs < 10 ^ digits)

/-- The value can be written with the given number of places. -/
def placesAtMost (x : Decimal) (digits : Nat) : Bool :=
  decide (x.scale ≤ digits) || x.mantissa.tmod (10 ^ (x.scale - digits)) == 0

@[simp] theorem isZero_iff {x : Decimal} : x.isZero = true ↔ x.mantissa = 0 := by simp [isZero]

@[simp] theorem isOne_iff {x : Decimal} : x.isOne = true ↔ x.mantissa = x.unit := by simp [isOne]

@[simp] theorem isMinusOne_iff {x : Decimal} : x.isMinusOne = true ↔ x.mantissa = -x.unit := by
  simp [isMinusOne]

/-! ### Order -/

/-- The numeric order, across scales. -/
def compare (x y : Decimal) : Except Failure Ordering :=
  scaledOrder x.mantissa x.scale y.mantissa y.scale

/-- The order of decimals of one scale, which is that of their mantissas. -/
def compareUnits (x y : Decimal) : Ordering := Ord.compare x.mantissa y.mantissa

/-- Both decimals have the same value, though perhaps not the same scale. -/
def sameValue (x y : Decimal) : Except Failure Bool := do return (← x.compare y) == .eq

/-- The smaller of two decimals, the first one if they have the same value. -/
protected def min (x y : Decimal) : Except Failure Decimal := do
  return if (← x.compare y) = .gt then y else x

/-- The larger of two decimals, the first one if they have the same value. -/
protected def max (x y : Decimal) : Except Failure Decimal := do
  return if (← x.compare y) = .lt then y else x

end Decimal

end DecimalMoney
