import DecimalMoney.Power

/-!
# Shortest decimals

The decimal with the fewest digits that still denotes a given binary float, and of those with that
many digits the nearest one.  All arithmetic is on natural numbers, hence exact.

## Main definitions

* `DecimalMoney.Binary64.Magnitude` : a positive number `mantissa * 2 ^ exponent`.
* `DecimalMoney.Binary64.Magnitude.ofBits` : the magnitude that a bit pattern of 64 bits denotes.
* `DecimalMoney.Binary64.Grid` : the multiples of a power of ten, in relation to a magnitude.
* `DecimalMoney.Binary64.shortest` : the shortest decimal of a magnitude.

## Main results

* `DecimalMoney.Binary64.Grid.isIn_of_pick` : what is picked from a grid rounds to the magnitude.
-/

namespace DecimalMoney.Binary64

/-- The number `mantissa * 2 ^ exponent`, with the distance to the next smaller float. -/
structure Magnitude where
  mantissa : Nat
  exponent : Int
  /-- The next smaller float is only half as far away as the next larger one. -/
  closeBelow : Bool
  deriving DecidableEq, Repr

/-- The bit above the fraction of a float: it counts `2 ^ 52`. -/
def leadingBit : Nat := 0x10000000000000

/-- The magnitude of a finite float.  The lowest 52 bits are the fraction, the next 11 bits the
exponent; above the smallest exponent the mantissa has one more bit in front. -/
def Magnitude.ofBits (bits : UInt64) : Magnitude :=
  let fraction := bits.toNat % leadingBit
  let biased := bits.toNat / leadingBit % 0x800
  if biased = 0 then ⟨fraction, -1074, false⟩
  else ⟨leadingBit + fraction, (biased : Int) - 1075, fraction == 0 && biased != 1⟩

/-- The multiples of `10 ^ power`, in relation to a magnitude.  Both are measured by one unit, which
is small enough for the magnitude, the neighbouring points of the grid and the ends of the interval
of numbers that round to the magnitude to be natural multiples of it. -/
structure Grid where
  power : Int
  /-- The distance of neighbouring points of the grid. -/
  step : Nat
  /-- The magnitude. -/
  value : Nat
  /-- The lower end of the interval. -/
  low : Nat
  /-- The upper end of the interval. -/
  high : Nat
  /-- The ends belong to the interval. -/
  closed : Bool
  deriving DecidableEq, Repr

namespace Grid

/-- The multiples of `10 ^ power` in relation to a magnitude.  The interval reaches half way to the
neighbouring floats; its ends round to the magnitude if the mantissa is even. -/
def ofMagnitude (m : Magnitude) (power : Int) : Grid :=
  let quarter := 2 ^ (m.exponent - 2).toNat * 10 ^ (-power).toNat
  { power
    step := 10 ^ power.toNat * 2 ^ (2 - m.exponent).toNat
    value := 4 * m.mantissa * quarter
    low := (4 * m.mantissa - if m.closeBelow then 1 else 2) * quarter
    high := (4 * m.mantissa + 2) * quarter
    closed := m.mantissa % 2 = 0 }

/-- The multiple `n` of the power of ten rounds to the magnitude. -/
def isIn (g : Grid) (n : Nat) : Bool :=
  if g.closed then g.low ≤ n * g.step && n * g.step ≤ g.high
  else g.low < n * g.step && n * g.step < g.high

/-- The last point of the grid that is not above the magnitude. -/
def below (g : Grid) : Nat := g.value / g.step

/-- The upper one of the two points around the magnitude is the nearer one; of two points equally
near it is the even one. -/
def upperIsNearer (g : Grid) : Bool :=
  let fromLower := 2 * (g.value - g.below * g.step)
  g.step < fromLower || (fromLower == g.step && g.below % 2 == 1)

/-- The nearest point of the grid that rounds to the magnitude, if there is one.  If any point does,
then one of the two points around the magnitude does. -/
def pick (g : Grid) : Option Nat :=
  match g.isIn g.below, g.isIn (g.below + 1) with
  | false, false => none
  | true, false => some g.below
  | false, true => some (g.below + 1)
  | true, true => some (if g.upperIsNearer then g.below + 1 else g.below)

/-- What is picked from a grid rounds to the magnitude. -/
theorem isIn_of_pick {g : Grid} {n : Nat} (h : g.pick = some n) : g.isIn n = true := by
  simp only [pick] at h
  split at h <;> simp_all
  split at h <;> simp_all

end Grid

/-- The number `digits * 10 ^ power`. -/
structure Scientific where
  digits : Nat
  power : Int
  deriving DecidableEq, Repr

/-- A power of ten that no smaller number than `10 ^ b` exceeds, for a number below `2 ^ b`: the
logarithm of two to base ten is slightly below `30103 / 100000`. -/
def powerAbove (m : Magnitude) : Int := (m.exponent + m.mantissa.log2 + 1) * 30103 / 100000 + 1

/-- The first point that rounds to the magnitude, from a power of ten downwards through as many
powers as `count` allows, and failing that the last point below it. -/
def shortestFrom (m : Magnitude) : (count : Nat) → (power : Int) → Scientific
  | 0, power => ⟨(Grid.ofMagnitude m power).below, power⟩
  | count + 1, power =>
    match (Grid.ofMagnitude m power).pick with
    | some n => ⟨n, power⟩
    | none => shortestFrom m count (power - 1)

/-- The decimal of fewest digits that rounds to a magnitude.  Seventeen digits are always enough,
and the search starts less than three powers above the first digit. -/
def shortest (m : Magnitude) : Scientific := shortestFrom m 20 (powerAbove m)

end DecimalMoney.Binary64
