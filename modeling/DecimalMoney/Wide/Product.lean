/-!
# Double words

The product of two words of 64 bits needs two words.  This file forms it from products of halves
of 32 bits, each of which fits one word.

## Main definitions

* `DecimalMoney.Wide.DoubleWord` : a high and a low word.
* `DecimalMoney.Wide.PartialProducts` : the four products of halves, with the sum of those that
  meet in the middle.
* `DecimalMoney.Wide.mulWide` : the product of two words.
-/

namespace DecimalMoney.Wide

/-- The low 32 bits of a word. -/
def lowHalf (x : UInt64) : UInt64 := x &&& 0xFFFFFFFF

/-- The high 32 bits of a word. -/
def highHalf (x : UInt64) : UInt64 := x >>> 32

theorem toNat_lowHalf (x : UInt64) : (lowHalf x).toNat = x.toNat % UInt32.size := by
  have : (0xFFFFFFFF : UInt64).toNat = 2 ^ 32 - 1 := rfl
  rw [lowHalf, UInt64.toNat_and, this, Nat.and_two_pow_sub_one_eq_mod]

theorem toNat_highHalf (x : UInt64) : (highHalf x).toNat = x.toNat / UInt32.size := by
  have : (32 : UInt64).toNat = 32 := rfl
  rw [highHalf, UInt64.toNat_shiftRight, this, Nat.shiftRight_eq_div_pow]

/-- A word is made of its halves. -/
theorem toNat_halves (x : UInt64) :
    x.toNat = (highHalf x).toNat * UInt32.size + (lowHalf x).toNat := by
  rw [toNat_lowHalf, toNat_highHalf, Nat.div_add_mod']

/-- A natural number below `2 ^ 128` as two words. -/
structure DoubleWord where
  /-- The multiple of `2 ^ 64`. -/
  high : UInt64
  /-- What is left. -/
  low : UInt64
  deriving DecidableEq, Repr

/-- The number that two words stand for. -/
def DoubleWord.toNat (w : DoubleWord) : Nat := w.high.toNat * UInt64.size + w.low.toNat

/-- The products of the halves of two words. -/
structure PartialProducts where
  lowLow : UInt64
  lowHigh : UInt64
  highLow : UInt64
  highHigh : UInt64
  deriving DecidableEq, Repr

namespace PartialProducts

/-- The four products of halves. -/
def ofWords (a b : UInt64) : PartialProducts where
  lowLow := lowHalf a * lowHalf b
  lowHigh := lowHalf a * highHalf b
  highLow := highHalf a * lowHalf b
  highHigh := highHalf a * highHalf b

/-- What meets at bits 32 to 63, with its carry: three halves, so below `3 * 2 ^ 32`. -/
def middle (p : PartialProducts) : UInt64 :=
  highHalf p.lowLow + lowHalf p.lowHigh + lowHalf p.highLow

/-- The low word of the product. -/
def low (p : PartialProducts) : UInt64 := (p.middle <<< 32) ||| lowHalf p.lowLow

/-- The high word of the product. -/
def high (p : PartialProducts) : UInt64 :=
  p.highHigh + highHalf p.lowHigh + highHalf p.highLow + highHalf p.middle

end PartialProducts

/-- The product of two words, formed from products of their halves. -/
def mulWide (a b : UInt64) : DoubleWord :=
  let p := PartialProducts.ofWords a b
  ⟨p.high, p.low⟩

end DecimalMoney.Wide
