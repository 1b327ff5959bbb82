/-!
# Powers

A power `b ^ n` of a natural number or an integer is the one of the core library.  The instance
below makes this so wherever the namespace is open, also where the powers of all monoids are known,
so that `10 ^ n` is one and the same term in every file of the library.

## Main results

* `DecimalMoney.ten_pow_pos` : a power of ten is positive.
-/

namespace DecimalMoney

attribute [scoped instance (high)] instPowNat

/-- A power of ten is positive. -/
theorem ten_pow_pos (n : Nat) : (0 : Int) < 10 ^ n := Int.pow_pos (by decide)

end DecimalMoney
