import DecimalMoney.Wide.Product

/-!
# Restoring long division

The quotient of two words by one, bit by bit.  The working pair holds the remainder so far and, in
one word, the bits of the dividend that are still unread above the bits of the quotient that are
already known.

## Main definitions

* `DecimalMoney.Wide.DivisionState` : the working pair.
* `DecimalMoney.Wide.DivisionState.step` : one bit of the division.
* `DecimalMoney.Wide.DivisionState.after` : the working pair after a number of bits.
* `DecimalMoney.Wide.divideWide` : quotient and remainder after 64 bits.
-/

namespace DecimalMoney.Wide

/-- The working pair of a long division. -/
structure DivisionState where
  /-- The remainder of what has been read. -/
  remainder : UInt64
  /-- Unread bits of the dividend, above the known bits of the quotient. -/
  quotient : UInt64
  deriving DecidableEq, Repr

namespace DivisionState

/-- One bit of the division by `d`: the remainder takes in the next bit of the dividend, and `d` is
taken off if it goes in.  A bit shifted out of the remainder means that it does; the subtraction
then wraps around to the true difference, which is below `d`. -/
def step (d : UInt64) (s : DivisionState) : DivisionState :=
  let carry := s.remainder >>> 63
  let shifted := (s.remainder <<< 1) ||| (s.quotient >>> 63)
  let rest := s.quotient <<< 1
  if carry = 1 ∨ d ≤ shifted then ⟨shifted - d, rest ||| 1⟩ else ⟨shifted, rest⟩

/-- The working pair after `k` bits. -/
def after (d : UInt64) (start : DivisionState) : Nat → DivisionState
  | 0 => start
  | k + 1 => (after d start k).step d

end DivisionState

/-- Quotient and remainder of a double word by `d`, for a high word below `d`, which makes the
quotient fit one word. -/
def divideWide (dividend : DoubleWord) (d : UInt64) : UInt64 × UInt64 :=
  let final := DivisionState.after d ⟨dividend.high, dividend.low⟩ 64
  (final.quotient, final.remainder)

end DecimalMoney.Wide
