import DecimalMoney.Rounding.Division

/-!
# Scaled integers

A mantissa `m` at scale `s` stands for `m / 10 ^ s`.  This file compares two scaled integers and
expresses one at another scale.  Both work with words of 64 bits.  A comparison does not check what
it subtracts and multiplies, so it traps where a difference or a product leaves the words.

## Main definitions

* `DecimalMoney.coarseDifference`, `DecimalMoney.fineDifference` : the two differences that a
  comparison looks at.
* `DecimalMoney.scaledOrder` : the order of two scaled integers.
* `DecimalMoney.rescale` : a mantissa at another scale.

## Main results

* `DecimalMoney.rescale_self`, `DecimalMoney.rescale_of_lt` : staying at a scale changes nothing,
  and a larger scale is reached by an exact product.
-/

namespace DecimalMoney

/-! ### Comparison -/

/-- The difference of two scaled integers at the smaller of both scales, where the one of larger
scale is truncated toward zero. -/
def coarseDifference (m₁ : Int) (s₁ : Nat) (m₂ : Int) (s₂ : Nat) : Int :=
  m₁.tdiv (10 ^ (s₁ - s₂)) - m₂.tdiv (10 ^ (s₂ - s₁))

/-- The difference of two scaled integers at the larger of both scales. -/
def fineDifference (m₁ : Int) (s₁ : Nat) (m₂ : Int) (s₂ : Nat) : Int :=
  m₁ * 10 ^ (s₂ - s₁) - m₂ * 10 ^ (s₁ - s₂)

/-- The order of `m₁ / 10 ^ s₁` and `m₂ / 10 ^ s₂`.  Signs are compared first; for equal signs and
different scales the coarse difference decides, and the fine one only where the coarse one vanishes,
which keeps its products small.  None of these steps is checked. -/
def scaledOrder (m₁ : Int) (s₁ : Nat) (m₂ : Int) (s₂ : Nat) : Except Failure Ordering :=
  if m₁.sign ≠ m₂.sign then .ok (compare m₁.sign m₂.sign)
  else if m₁ = 0 then .ok .eq
  else if s₁ = s₂ then .ok (compare m₁ m₂)
  else do
    let _ ← tabledPower (max s₁ s₂ - min s₁ s₂)
    let coarse ← trapWord (coarseDifference m₁ s₁ m₂ s₂)
    if coarse ≠ 0 then return compare coarse 0
    else
      let left ← trapWord (m₁ * 10 ^ (s₂ - s₁))
      let right ← trapWord (m₂ * 10 ^ (s₁ - s₂))
      return compare (← trapWord (left - right)) 0

/-- At one scale the fine difference is the difference of the mantissas. -/
theorem fineDifference_self_scale (m₁ m₂ : Int) (s : Nat) :
    fineDifference m₁ s m₂ s = m₁ - m₂ := by
  simp [fineDifference]

/-! ### Change of scale -/

/-- The mantissa at scale `target` of the number with the given mantissa at scale `source`.  A
larger scale is reached exactly or not at all; a smaller one divides the excess places out. -/
def rescale (mantissa : Int) (source target : Nat) (mode : RoundingMode) : Except Failure Int :=
  if mantissa = 0 ∨ source = target then .ok mantissa
  else if source < target then do
    checkDigits (mantissa * (← powerOfTen (target - source : Nat)))
  else do
    divideRounded mantissa (← powerOfTen (source - target : Nat)) mode

@[simp] theorem rescale_self (mantissa : Int) (scale : Nat) (mode : RoundingMode) :
    rescale mantissa scale scale mode = .ok mantissa := by
  simp [rescale]

@[simp] theorem rescale_zero (source target : Nat) (mode : RoundingMode) :
    rescale 0 source target mode = .ok 0 := by
  simp [rescale]

theorem rescale_of_lt {mantissa : Int} {source target : Nat} (nonzero : mantissa ≠ 0)
    (wider : source < target) (near : target - source ≤ maxScale) (mode : RoundingMode) :
    rescale mantissa source target mode = checkDigits (mantissa * 10 ^ (target - source)) := by
  simp only [rescale, nonzero, Nat.ne_of_lt wider, or_self, if_false, wider, if_true,
    powerOfTen_natCast near]
  rfl

end DecimalMoney
