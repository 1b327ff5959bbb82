import DecimalMoney.Bounds
import DecimalMoney.Rounding.Mode
import Mathlib

/-!
# Rounding of exact numbers

A rounding mode takes an exact rational number to an integer.  This file says which one, by floor,
ceiling and the fractional part alone, without a division that leaves a remainder.

## Main definitions

* `DecimalMoney.RoundingMode.inward`, `DecimalMoney.RoundingMode.outward` : toward zero and away
  from it.
* `DecimalMoney.RoundingMode.nearest` : to the nearest integer, with a rule for ties.
* `DecimalMoney.RoundingMode.round` : the rounding of a number by a mode.
* `DecimalMoney.RoundingMode.roundWord` : the rounding as a signed word, with its failures.

## Main results

* `DecimalMoney.RoundingMode.round_neg` : the reflected mode rounds the opposite number.
* `DecimalMoney.RoundingMode.abs_round_sub_lt_one` : rounding moves a number by less than one.
* `DecimalMoney.RoundingMode.abs_nearest_sub_le_half` : to nearest, by at most one half.
* `DecimalMoney.RoundingMode.le_round`, `DecimalMoney.RoundingMode.round_le` : rounding does not
  cross an integer.
* `DecimalMoney.RoundingMode.round_down_div` : toward zero, quotients of integers are truncated.
-/

namespace DecimalMoney.RoundingMode

/-! ### Neighbours -/

/-- The neighbouring integer that is not farther from zero. -/
def inward (x : ℚ) : ℤ := if 0 ≤ x then ⌊x⌋ else ⌈x⌉

/-- The neighbouring integer that is not nearer to zero. -/
def outward (x : ℚ) : ℤ := if 0 ≤ x then ⌈x⌉ else ⌊x⌋

/-- The neighbouring integer that is even, for a number that is no integer. -/
def toEven (x : ℚ) : ℤ := if Even ⌊x⌋ then ⌊x⌋ else ⌈x⌉

/-- The nearest integer, where `tie` chooses between two that are equally near. -/
def nearest (tie : ℚ → ℤ) (x : ℚ) : ℤ :=
  if Int.fract x < 1 / 2 then ⌊x⌋ else if 1 / 2 < Int.fract x then ⌈x⌉ else tie x

/-- The rounding of a number.  Where no rounding is allowed this is meant for integers only. -/
def round : RoundingMode → ℚ → ℤ
  | up, x => outward x
  | down, x => inward x
  | ceiling, x => ⌈x⌉
  | floor, x => ⌊x⌋
  | halfUp, x => nearest outward x
  | halfDown, x => nearest inward x
  | halfEven, x => nearest toEven x
  | unnecessary, x => inward x

/-- **The rounding of a number as a word.** It is the rounded number if that fits a word and may be
used; a number that must not be rounded is refused, if its integral part fits a word of 64 bits
without a sign; all else is an overflow. -/
def roundWord (mode : RoundingMode) (x : ℚ) : Except Failure Int :=
  if FitsWord (mode.round x) ∧ (mode ≠ unnecessary ∨ Int.fract x = 0) then .ok (mode.round x)
  else if mode = unnecessary ∧ Int.fract x ≠ 0 ∧ ⌊|x|⌋ < UInt64.size then .error .roundingRequired
  else .error .overflow

/-! ### Integers stay -/

@[simp] theorem inward_intCast (n : ℤ) : inward n = n := by simp [inward]

@[simp] theorem outward_intCast (n : ℤ) : outward n = n := by simp [outward]

@[simp] theorem nearest_intCast (tie : ℚ → ℤ) (n : ℤ) : nearest tie n = n := by simp [nearest]

/-- An integer is rounded to itself. -/
@[simp] theorem round_intCast (mode : RoundingMode) (n : ℤ) : mode.round n = n := by
  cases mode <;> simp [round]

@[simp] theorem round_zero (mode : RoundingMode) : mode.round 0 = 0 := by
  simpa using mode.round_intCast 0

/-! ### One of both neighbours -/

theorem nearest_eq_floor_or_ceil {tie : ℚ → ℤ} {x : ℚ} (h : tie x = ⌊x⌋ ∨ tie x = ⌈x⌉) :
    nearest tie x = ⌊x⌋ ∨ nearest tie x = ⌈x⌉ := by
  unfold nearest
  split_ifs
  · exact Or.inl rfl
  · exact Or.inr rfl
  · exact h

theorem inward_eq_floor_or_ceil (x : ℚ) : inward x = ⌊x⌋ ∨ inward x = ⌈x⌉ := by
  unfold inward
  split_ifs <;> simp

theorem outward_eq_floor_or_ceil (x : ℚ) : outward x = ⌊x⌋ ∨ outward x = ⌈x⌉ := by
  unfold outward
  split_ifs <;> simp

theorem toEven_eq_floor_or_ceil (x : ℚ) : toEven x = ⌊x⌋ ∨ toEven x = ⌈x⌉ := by
  unfold toEven
  split_ifs <;> simp

/-- Rounding yields one of the two neighbouring integers. -/
theorem round_eq_floor_or_ceil (mode : RoundingMode) (x : ℚ) :
    mode.round x = ⌊x⌋ ∨ mode.round x = ⌈x⌉ := by
  cases mode with
  | up => exact outward_eq_floor_or_ceil x
  | down | unnecessary => exact inward_eq_floor_or_ceil x
  | ceiling => exact Or.inr rfl
  | floor => exact Or.inl rfl
  | halfUp => exact nearest_eq_floor_or_ceil (outward_eq_floor_or_ceil x)
  | halfDown => exact nearest_eq_floor_or_ceil (inward_eq_floor_or_ceil x)
  | halfEven => exact nearest_eq_floor_or_ceil (toEven_eq_floor_or_ceil x)

/-- Rounding moves a number by less than one. -/
theorem abs_round_sub_lt_one (mode : RoundingMode) (x : ℚ) : |(mode.round x : ℚ) - x| < 1 := by
  have hfloor := Int.floor_le x
  have hfloor' := Int.lt_floor_add_one x
  have hceil := Int.le_ceil x
  have hceil' := Int.ceil_lt_add_one x
  rw [abs_lt]
  rcases mode.round_eq_floor_or_ceil x with h | h <;> rw [h] <;> constructor <;> linarith

/-- Rounding does not cross an integer. -/
theorem le_round (mode : RoundingMode) {x : ℚ} {n : ℤ} (h : (n : ℚ) ≤ x) : n ≤ mode.round x := by
  have near := (abs_lt.1 (mode.abs_round_sub_lt_one x)).1
  have above : ((n - 1 : ℤ) : ℚ) < mode.round x := by
    push_cast
    linarith
  exact Int.sub_one_lt_iff.1 (Int.cast_lt.1 above)

theorem round_le (mode : RoundingMode) {x : ℚ} {n : ℤ} (h : x ≤ n) : mode.round x ≤ n := by
  have near := (abs_lt.1 (mode.abs_round_sub_lt_one x)).2
  have below : (mode.round x : ℚ) < ((n + 1 : ℤ) : ℚ) := by
    push_cast
    linarith
  exact Int.lt_add_one_iff.1 (Int.cast_lt.1 below)

/-- In particular it does not cross zero. -/
theorem round_nonneg (mode : RoundingMode) {x : ℚ} (h : 0 ≤ x) : 0 ≤ mode.round x :=
  mode.le_round (by rwa [Int.cast_zero])

theorem round_nonpos (mode : RoundingMode) {x : ℚ} (h : x ≤ 0) : mode.round x ≤ 0 :=
  mode.round_le (by rwa [Int.cast_zero])

/-- Nor does a magnitude. -/
theorem abs_round_le (mode : RoundingMode) {x : ℚ} {n : ℤ} (h : |x| ≤ n) : |mode.round x| ≤ n := by
  obtain ⟨lower, upper⟩ := abs_le.1 h
  refine abs_le.2 ⟨mode.le_round ?_, mode.round_le upper⟩
  rw [Int.cast_neg]
  exact lower

/-- Above its floor a number that is no integer has the next integer as its ceiling. -/
theorem ceil_eq_floor_add_one {x : ℚ} (h : Int.fract x ≠ 0) : ⌈x⌉ = ⌊x⌋ + 1 := by
  have hceil := Int.ceil_eq_add_one_sub_fract h
  have hfract := Int.self_sub_floor x
  have : (⌈x⌉ : ℚ) = ((⌊x⌋ + 1 : ℤ) : ℚ) := by
    push_cast
    linarith
  exact_mod_cast this

/-- Rounding to nearest moves a number by at most one half. -/
theorem abs_nearest_sub_le_half {tie : ℚ → ℤ} {x : ℚ} (h : tie x = ⌊x⌋ ∨ tie x = ⌈x⌉) :
    |(nearest tie x : ℚ) - x| ≤ 1 / 2 := by
  have hfract := Int.self_sub_floor x
  have hfract' := Int.fract_nonneg x
  have hceil : 1 / 2 ≤ Int.fract x → (⌈x⌉ : ℚ) = ⌊x⌋ + 1 := by
    intro far
    have nonzero : Int.fract x ≠ 0 := by linarith
    exact_mod_cast ceil_eq_floor_add_one nonzero
  rw [abs_le]
  unfold nearest
  split_ifs with near far
  · constructor <;> linarith
  · have := hceil far.le
    have := Int.fract_lt_one x
    constructor <;> linarith
  · have := hceil (not_lt.1 near)
    rcases h with h | h <;> rw [h] <;> constructor <;> linarith

/-! ### The opposite number -/

/-- Of a number that is no integer and its opposite exactly one is not below zero. -/
private theorem neg_nonneg_iff_of_fract_ne_zero {x : ℚ} (h : Int.fract x ≠ 0) :
    0 ≤ -x ↔ ¬0 ≤ x := by
  have nonzero : x ≠ 0 := by
    rintro rfl
    exact h Int.fract_zero
  rw [Left.nonneg_neg_iff, not_le]
  exact ⟨fun le => lt_of_le_of_ne le nonzero, le_of_lt⟩

private theorem inward_neg {x : ℚ} (h : Int.fract x ≠ 0) : inward (-x) = -inward x := by
  rw [inward, inward, if_congr (neg_nonneg_iff_of_fract_ne_zero h) rfl rfl, ite_not, Int.floor_neg,
    Int.ceil_neg, apply_ite Neg.neg]

private theorem outward_neg {x : ℚ} (h : Int.fract x ≠ 0) : outward (-x) = -outward x := by
  rw [outward, outward, if_congr (neg_nonneg_iff_of_fract_ne_zero h) rfl rfl, ite_not,
    Int.floor_neg, Int.ceil_neg, apply_ite Neg.neg]

private theorem toEven_neg {x : ℚ} (h : Int.fract x ≠ 0) : toEven (-x) = -toEven x := by
  have parity : Even ⌊-x⌋ ↔ ¬Even ⌊x⌋ := by
    rw [Int.floor_neg, even_neg, ceil_eq_floor_add_one h, Int.even_add_one]
  rw [toEven, toEven, if_congr parity rfl rfl, ite_not, Int.floor_neg, Int.ceil_neg,
    apply_ite Neg.neg]

private theorem nearest_neg {tie : ℚ → ℤ} {x : ℚ} (h : Int.fract x ≠ 0)
    (htie : tie (-x) = -tie x) : nearest tie (-x) = -nearest tie x := by
  have low : Int.fract (-x) < 1 / 2 ↔ 1 / 2 < Int.fract x := by
    rw [Int.fract_neg h]
    constructor <;> intro <;> linarith
  have high : 1 / 2 < Int.fract (-x) ↔ Int.fract x < 1 / 2 := by
    rw [Int.fract_neg h]
    constructor <;> intro <;> linarith
  unfold nearest
  rw [if_congr low rfl rfl, if_congr high rfl rfl, Int.floor_neg, Int.ceil_neg, htie]
  split_ifs with far near
  · exact absurd (far.trans near) (lt_irrefl _)
  all_goals rfl

/-- **Reflection.** The reflected mode does to a number what the mode does to its opposite. -/
theorem round_neg (mode : RoundingMode) (x : ℚ) : mode.round (-x) = -mode.reflect.round x := by
  by_cases h : Int.fract x = 0
  · obtain ⟨n, rfl⟩ := Int.fract_eq_zero_iff.1 h
    rw [← Int.cast_neg, round_intCast, round_intCast]
  cases mode with
  | up => exact outward_neg h
  | down | unnecessary => exact inward_neg h
  | ceiling => exact Int.ceil_neg
  | floor => exact Int.floor_neg
  | halfUp => exact nearest_neg h (outward_neg h)
  | halfDown => exact nearest_neg h (inward_neg h)
  | halfEven => exact nearest_neg h (toEven_neg h)

/-! ### Rounding toward zero -/

private theorem round_down_natCast_div (m n : Nat) :
    down.round ((m : ℚ) / n) = ((m : Int).tdiv n : Int) := by
  have nonneg : (0 : ℚ) ≤ m / n := div_nonneg (Nat.cast_nonneg m) (Nat.cast_nonneg n)
  rw [round, inward, if_pos nonneg, Rat.floor_natCast_div_natCast]
  rfl

/-- **Toward zero, a quotient of integers is truncated.** -/
theorem round_down_div (m n : Int) : down.round ((m : ℚ) / n) = m.tdiv n := by
  have reflected : ∀ x : ℚ, down.round (-x) = -down.round x := down.round_neg
  obtain ⟨a, rfl | rfl⟩ := m.eq_nat_or_neg <;> obtain ⟨b, rfl | rfl⟩ := n.eq_nat_or_neg
  all_goals
    simp only [Int.cast_neg, Int.cast_natCast, neg_div, div_neg, reflected, Int.neg_tdiv,
      Int.tdiv_neg, round_down_natCast_div]

end DecimalMoney.RoundingMode
