import DecimalMoney.Wide.Backend
import Mathlib

/-!
# Exactness of the product of two words

The product of two words is formed from four products of halves.  Read as natural numbers, the two
words of the result are the product, and no sum or product of words on the way wraps around.  A
sum is looked at as a whole: the sum of its first terms is no larger.

## Main definitions

* `DecimalMoney.Wide.ProductFits` : the sums and products on the way to a product fit a word.

## Main results

* `DecimalMoney.Wide.toNat_mulWide` : the double word stands for the product.
* `DecimalMoney.Wide.productFits` : nothing wraps around on the way.
* `DecimalMoney.Wide.toNat_mul_of_lt_narrowBound` : narrow operands are multiplied as one word.
-/

namespace DecimalMoney.Wide

/-! ### Halves -/

theorem lowHalf_lt (x : UInt64) : (lowHalf x).toNat < UInt32.size := by
  rw [toNat_lowHalf]
  exact Nat.mod_lt _ (by decide)

theorem highHalf_lt (x : UInt64) : (highHalf x).toNat < UInt32.size := by
  have h := x.toNat_lt
  rw [toNat_highHalf]
  exact Nat.div_lt_of_lt_mul h

/-- The product of two halves is at most `(2 ^ 32 - 1) ^ 2`. -/
theorem mul_halves_le {m n : Nat} (hm : m < UInt32.size) (hn : n < UInt32.size) :
    m * n ≤ (UInt32.size - 1) * (UInt32.size - 1) :=
  Nat.mul_le_mul (Nat.le_pred_of_lt hm) (Nat.le_pred_of_lt hn)

/-- A product of words that are halves is the product of the numbers. -/
theorem toNat_mul_halves {x y : UInt64} (hx : x.toNat < UInt32.size)
    (hy : y.toNat < UInt32.size) : (x * y).toNat = x.toNat * y.toNat := by
  have h := mul_halves_le hx hy
  rw [UInt64.toNat_mul]
  exact Nat.mod_eq_of_lt (Nat.lt_of_le_of_lt h (by decide))

/-! ### The sums and products on the way -/

/-- No sum and no product of words on the way to the product of `a` and `b` leaves a word. -/
structure ProductFits (a b : UInt64) : Prop where
  lowLow : (lowHalf a).toNat * (lowHalf b).toNat < UInt64.size
  lowHigh : (lowHalf a).toNat * (highHalf b).toNat < UInt64.size
  highLow : (highHalf a).toNat * (lowHalf b).toNat < UInt64.size
  highHigh : (highHalf a).toNat * (highHalf b).toNat < UInt64.size
  middle : let p := PartialProducts.ofWords a b
    (highHalf p.lowLow).toNat + (lowHalf p.lowHigh).toNat + (lowHalf p.highLow).toNat < UInt64.size
  high : let p := PartialProducts.ofWords a b
    p.highHigh.toNat + (highHalf p.lowHigh).toNat + (highHalf p.highLow).toNat +
      (highHalf p.middle).toNat < UInt64.size
  narrow : a < narrowBound → b < narrowBound → a.toNat * b.toNat < UInt64.size

namespace PartialProducts

variable (a b : UInt64)

theorem toNat_lowLow : (ofWords a b).lowLow.toNat = (lowHalf a).toNat * (lowHalf b).toNat :=
  toNat_mul_halves (lowHalf_lt a) (lowHalf_lt b)

theorem toNat_lowHigh : (ofWords a b).lowHigh.toNat = (lowHalf a).toNat * (highHalf b).toNat :=
  toNat_mul_halves (lowHalf_lt a) (highHalf_lt b)

theorem toNat_highLow : (ofWords a b).highLow.toNat = (highHalf a).toNat * (lowHalf b).toNat :=
  toNat_mul_halves (highHalf_lt a) (lowHalf_lt b)

theorem toNat_highHigh : (ofWords a b).highHigh.toNat = (highHalf a).toNat * (highHalf b).toNat :=
  toNat_mul_halves (highHalf_lt a) (highHalf_lt b)

/-- Three halves add up without a carry out of the word. -/
theorem toNat_middle (p : PartialProducts) :
    p.middle.toNat = (highHalf p.lowLow).toNat + (lowHalf p.lowHigh).toNat +
      (lowHalf p.highLow).toNat := by
  have h₁ := highHalf_lt p.lowLow
  have h₂ := lowHalf_lt p.lowHigh
  have h₃ := lowHalf_lt p.highLow
  simp only [UInt32.size] at h₁ h₂ h₃
  rw [middle, UInt64.toNat_add, UInt64.toNat_add]
  omega

/-- A word shifted by half its bits leaves room for a half. -/
private theorem shiftLeft_mod_or (m : Nat) {l : Nat} (hl : l < 4294967296) :
    m <<< 32 % 18446744073709551616 ||| l = m % 4294967296 * 4294967296 + l := by
  have hm : m * 4294967296 % 18446744073709551616 = m % 4294967296 * 4294967296 :=
    Nat.mul_mod_mul_right 4294967296 m 4294967296
  have hor := Nat.two_pow_add_eq_or_of_lt (i := 32) hl (m % 4294967296)
  simp only [Nat.shiftLeft_eq, Nat.reducePow] at hor ⊢
  rw [hm, Nat.mul_comm, ← hor]

/-- The low word takes the low half of the middle sum above the low half of the low product. -/
theorem toNat_low (p : PartialProducts) :
    p.low.toNat = p.middle.toNat % UInt32.size * UInt32.size + (lowHalf p.lowLow).toNat := by
  have hs : (32 : UInt64).toNat % 64 = 32 := rfl
  rw [low, UInt64.toNat_or, UInt64.toNat_shiftLeft, hs]
  exact shiftLeft_mod_or p.middle.toNat (lowHalf_lt p.lowLow)

/-- The four terms of the high word add up without a carry out of the word. -/
theorem high_sum_lt :
    (ofWords a b).highHigh.toNat + (highHalf (ofWords a b).lowHigh).toNat +
      (highHalf (ofWords a b).highLow).toNat + (highHalf (ofWords a b).middle).toNat <
        UInt64.size := by
  have hh := mul_halves_le (highHalf_lt a) (highHalf_lt b)
  have hl := mul_halves_le (lowHalf_lt a) (highHalf_lt b)
  have hr := mul_halves_le (highHalf_lt a) (lowHalf_lt b)
  have h₁ := highHalf_lt (ofWords a b).lowLow
  have h₂ := lowHalf_lt (ofWords a b).lowHigh
  have h₃ := lowHalf_lt (ofWords a b).highLow
  rw [← toNat_highHigh] at hh
  rw [← toNat_lowHigh] at hl
  rw [← toNat_highLow] at hr
  rw [toNat_highHalf, toNat_highHalf, toNat_highHalf, toNat_middle]
  simp only [UInt32.size, UInt64.size] at *
  omega

theorem toNat_high :
    (ofWords a b).high.toNat = (ofWords a b).highHigh.toNat +
      (highHalf (ofWords a b).lowHigh).toNat + (highHalf (ofWords a b).highLow).toNat +
        (highHalf (ofWords a b).middle).toNat := by
  have h := high_sum_lt a b
  simp only [UInt64.size] at h
  rw [high, UInt64.toNat_add, UInt64.toNat_add, UInt64.toNat_add]
  omega

end PartialProducts

/-! ### The product -/

open PartialProducts

/-- **The double word of a product.** It stands for the product of the two words. -/
theorem toNat_mulWide (a b : UInt64) : (mulWide a b).toNat = a.toNat * b.toNat := by
  have hhh := toNat_highHigh a b
  have hlh := toNat_lowHigh a b
  have hhl := toNat_highLow a b
  have hll := toNat_lowLow a b
  have product : a.toNat * b.toNat =
      (ofWords a b).highHigh.toNat * UInt64.size +
        ((ofWords a b).lowHigh.toNat + (ofWords a b).highLow.toNat) * UInt32.size +
          (ofWords a b).lowLow.toNat := by
    rw [hhh, hlh, hhl, hll, toNat_halves a, toNat_halves b]
    simp only [UInt32.size, UInt64.size]
    ring
  rw [product]
  simp only [DoubleWord.toNat, mulWide]
  rw [toNat_high, toNat_low, toNat_highHalf, toNat_highHalf, toNat_highHalf, toNat_lowHalf,
    toNat_middle, toNat_highHalf, toNat_lowHalf, toNat_lowHalf]
  simp only [UInt32.size, UInt64.size]
  omega

theorem mul_lt_of_lt_narrowBound {a b : UInt64} (ha : a < narrowBound) (hb : b < narrowBound) :
    a.toNat * b.toNat < UInt64.size := by
  have ha' : a.toNat < 2147483648 := UInt64.lt_iff_toNat_lt.1 ha
  have hb' : b.toNat < 2147483648 := UInt64.lt_iff_toNat_lt.1 hb
  calc a.toNat * b.toNat ≤ 2147483648 * 2147483648 :=
        Nat.mul_le_mul (Nat.le_of_lt ha') (Nat.le_of_lt hb')
    _ < UInt64.size := by decide

/-- Narrow operands are multiplied as one word. -/
theorem toNat_mul_of_lt_narrowBound {a b : UInt64} (ha : a < narrowBound) (hb : b < narrowBound) :
    (a * b).toNat = a.toNat * b.toNat := by
  rw [UInt64.toNat_mul]
  exact Nat.mod_eq_of_lt (mul_lt_of_lt_narrowBound ha hb)

/-- No sum and no product of words on the way to a product leaves a word. -/
theorem productFits (a b : UInt64) : ProductFits a b where
  lowLow := toNat_lowLow a b ▸ UInt64.toNat_lt_size _
  lowHigh := toNat_lowHigh a b ▸ UInt64.toNat_lt_size _
  highLow := toNat_highLow a b ▸ UInt64.toNat_lt_size _
  highHigh := toNat_highHigh a b ▸ UInt64.toNat_lt_size _
  middle := (toNat_middle (ofWords a b)).symm.trans_lt (UInt64.toNat_lt_size _)
  high := high_sum_lt a b
  narrow := mul_lt_of_lt_narrowBound

end DecimalMoney.Wide
