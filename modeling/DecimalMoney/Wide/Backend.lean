import DecimalMoney.Wide.LongDivision

/-!
# Backends

A backend computes `a * b / d` on words, with the whole product in between.  There are two: one
uses integers wide enough for the product, the other one only words.

## Main definitions

* `DecimalMoney.Wide.ProductDivision` : what a backend computes.
* `DecimalMoney.Wide.accelerated`, `DecimalMoney.Wide.portable` : the two ways to compute it.
* `DecimalMoney.Backend` : the choice between both, with `DecimalMoney.Backend.productDivision`.
-/

namespace DecimalMoney

namespace Wide

/-- Quotient and remainder of `a * b / d` for a positive `d`; nothing if the quotient does not fit
a word. -/
abbrev ProductDivision := UInt64 → UInt64 → UInt64 → Option (UInt64 × UInt64)

/-- The product as one natural number. -/
def accelerated : ProductDivision := fun a b d =>
  let product := a.toNat * b.toNat
  if product / d.toNat < UInt64.size then
    some (UInt64.ofNat (product / d.toNat), UInt64.ofNat (product % d.toNat))
  else none

/-- The bound `2 ^ 31`: operands below it have a product below `2 ^ 62`. -/
def narrowBound : UInt64 := 2147483648

/-- The product as a double word.  Products of one word are divided as words, and a high word not
below the divisor means that the quotient does not fit. -/
def portable : ProductDivision := fun a b d =>
  if a < narrowBound ∧ b < narrowBound then some (a * b / d, a * b % d)
  else
    let product := mulWide a b
    if product.high = 0 then some (product.low / d, product.low % d)
    else if d ≤ product.high then none
    else some (divideWide product d)

end Wide

/-- The ways to compute `a * b / d`. -/
inductive Backend where
  /-- With an integer of 128 bits. -/
  | accelerated
  /-- With words of 64 bits only. -/
  | portable
  deriving DecidableEq, Repr

namespace Backend

/-- What the backend computes. -/
def productDivision : Backend → Wide.ProductDivision
  | accelerated => Wide.accelerated
  | portable => Wide.portable

/-- The name of the backend in reports. -/
def name : Backend → String
  | accelerated => "Accelerated (u128)"
  | portable => "Portable (64-bit limbs)"

/-- The backend that arithmetic uses: the one the default settings select on a processor of
64 bits. -/
def installed : Backend := accelerated

end Backend

end DecimalMoney
