import DecimalMoney.Proofs.Sums
import DecimalMoney.Proofs.Wide.ProductQuotient

/-!
# Rounding what has been rounded

A number that is rounded, divided by an integer and rounded again comes out as if the quotient had
been rounded at once, provided that the mode has a direction: floors and ceilings are determined by
the integers on one side of a number.  To nearest this fails, since the first rounding can make a
tie of what is none.

## Main definitions

* `DecimalMoney.RoundingMode.isDirected` : the modes that do not look for the nearest integer.

## Main results

* `DecimalMoney.RoundingMode.round_round_div` : rounding twice is rounding once.
* `DecimalMoney.RoundingMode.roundWord_bind_roundWord_div` : so it is for words, with the failures.
-/

namespace DecimalMoney.RoundingMode

/-- The mode rounds in a direction, or it does not round at all. -/
def isDirected : RoundingMode → Bool
  | up | down | ceiling | floor | unnecessary => true
  | halfUp | halfDown | halfEven => false

/-- Seen from the other side of zero, a direction is a direction. -/
@[simp] theorem isDirected_reflect (mode : RoundingMode) :
    mode.reflect.isDirected = mode.isDirected := by
  cases mode <;> rfl

/-! ### Floors and ceilings of quotients -/

theorem floor_floor_div (x : ℚ) {n : ℤ} (hn : 0 ≤ n) : ⌊(⌊x⌋ : ℚ) / n⌋ = ⌊x / n⌋ := by
  rw [Int.floor_div_cast_of_nonneg hn, Int.floor_div_cast_of_nonneg hn, Int.floor_intCast]

theorem ceil_ceil_div (x : ℚ) {n : ℤ} (hn : 0 ≤ n) : ⌈(⌈x⌉ : ℚ) / n⌉ = ⌈x / n⌉ := by
  have opposite := floor_floor_div (-x) hn
  rw [Int.floor_neg, Int.cast_neg, neg_div, neg_div, Int.floor_neg, Int.floor_neg] at opposite
  exact neg_inj.1 opposite

/-! ### Rounding twice -/

variable {mode : RoundingMode}

/-- Above zero a direction is that of floors or of ceilings. -/
private theorem round_round_div_of_nonneg (directed : mode.isDirected = true) {x : ℚ} (hx : 0 ≤ x)
    {n : ℤ} (hn : 0 ≤ n) : mode.round (mode.round x / n) = mode.round (x / n) := by
  have hn' : (0 : ℚ) ≤ n := by exact_mod_cast hn
  have hquotient : 0 ≤ x / n := div_nonneg hx hn'
  have hrounded : (0 : ℚ) ≤ mode.round x / n :=
    div_nonneg (by exact_mod_cast mode.round_nonneg hx) hn'
  cases mode with
  | up =>
    simp only [round, outward, if_pos hx, if_pos hquotient] at hrounded ⊢
    rw [if_pos hrounded, ceil_ceil_div x hn]
  | down | unnecessary =>
    simp only [round, inward, if_pos hx, if_pos hquotient] at hrounded ⊢
    rw [if_pos hrounded, floor_floor_div x hn]
  | ceiling => exact ceil_ceil_div x hn
  | floor => exact floor_floor_div x hn
  | halfUp | halfDown | halfEven => cases directed

/-- **Rounding twice in one direction is rounding once.** -/
theorem round_round_div (directed : mode.isDirected = true) (x : ℚ) {n : ℤ} (hn : 0 ≤ n) :
    mode.round (mode.round x / n) = mode.round (x / n) := by
  rcases le_total 0 x with nonneg | nonpos
  · exact round_round_div_of_nonneg directed nonneg hn
  · have opposite : mode.reflect.isDirected = true := (isDirected_reflect mode).trans directed
    have mirrored := round_round_div_of_nonneg opposite (neg_nonneg.2 nonpos) hn
    rw [round_neg, reflect_reflect, Int.cast_neg, neg_div, neg_div, round_neg, round_neg,
      reflect_reflect] at mirrored
    exact neg_inj.1 mirrored

/-- A number that is no integer is refused, where no rounding is allowed. -/
theorem roundWord_of_inexact {x : ℚ} (inexact : Int.fract x ≠ 0) (small : ⌊|x|⌋ < UInt64.size) :
    unnecessary.roundWord x = .error .roundingRequired := by
  rw [roundWord, if_neg fun fits => fits.2.elim (fun rounds => rounds rfl) inexact,
    if_pos ⟨rfl, inexact, small⟩]

/-- Where rounding is allowed, only the rounded number matters. -/
theorem roundWord_congr (rounds : mode ≠ unnecessary) {x y : ℚ} (h : mode.round x = mode.round y) :
    mode.roundWord x = mode.roundWord y := by
  simp only [roundWord, h, rounds, ne_eq, not_false_eq_true, true_or, and_true, false_and, if_false]

/-- A number that is no integer does not become one in a division by an integer. -/
theorem fract_div_ne_zero {x : ℚ} (h : Int.fract x ≠ 0) {n : ℤ} (hn : n ≠ 0) :
    Int.fract (x / n) ≠ 0 := by
  intro exact
  obtain ⟨k, hk⟩ := Int.fract_eq_zero_iff.1 exact
  refine h (Int.fract_eq_zero_iff.2 ⟨k * n, ?_⟩)
  rw [Int.cast_mul, hk, div_mul_cancel₀ x (by exact_mod_cast hn)]

/-- **Rounding twice in one direction is rounding once**, also where no rounding is allowed and the
first step or the second one fails. -/
theorem roundWord_bind_roundWord_div (directed : mode.isDirected = true) {x : ℚ}
    (fits : FitsWord (mode.round x)) {n : ℤ} (hn : 0 < n) :
    (do mode.roundWord ((← mode.roundWord x : ℤ) / n)) = mode.roundWord (x / n) := by
  by_cases allowed : mode ≠ unnecessary ∨ Int.fract x = 0
  · rw [show mode.roundWord x = .ok (mode.round x) from if_pos ⟨fits, allowed⟩, ok_bind]
    rcases allowed with rounds | exact
    · exact roundWord_congr rounds (round_round_div directed x hn.le)
    · obtain ⟨k, rfl⟩ := Int.fract_eq_zero_iff.1 exact
      rw [round_intCast]
  · obtain ⟨rfl, inexact⟩ : mode = unnecessary ∧ Int.fract x ≠ 0 := by tauto
    have hpos : (1 : ℚ) ≤ n := by exact_mod_cast hn
    have smaller : |x / n| ≤ |x| := by
      rw [abs_div, abs_of_pos (zero_lt_one.trans_le hpos)]
      exact div_le_self (abs_nonneg x) hpos
    have small := floor_abs_lt_size fits
    have small' := (Int.floor_le_floor smaller).trans_lt small
    rw [roundWord_of_inexact inexact small,
      roundWord_of_inexact (fract_div_ne_zero inexact hn.ne') small']
    rfl

end DecimalMoney.RoundingMode
