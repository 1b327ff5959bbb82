import DecimalMoney.Proofs.Rounding.Exact

/-!
# What rounding adds

Rounding adds something to a number or takes it away.  The modes differ in the direction: some have
one direction for all numbers, some one for all numbers of a sign.  Over a list the excesses add up
to what the sum of the rounded numbers is too large.

## Main definitions

* `DecimalMoney.RoundingMode.excess` : what rounding adds to a number.

## Main results

* `DecimalMoney.RoundingMode.excess_mul_excess_nonneg` : when two numbers are rounded in one
  direction.
* `DecimalMoney.RoundingMode.round_halfEven_eq_of_abs_sub_lt_half` : which integer a number near to
  one is rounded to.
* `DecimalMoney.RoundingMode.sum_map_round` : the sum of rounded numbers.
* `DecimalMoney.RoundingMode.abs_sum_excess_halfEven_le` : what rounding to nearest adds to a sum.
-/

namespace DecimalMoney.RoundingMode

/-- What rounding adds to a number. -/
def excess (mode : RoundingMode) (x : ℚ) : ℚ := mode.round x - x

theorem abs_excess_lt_one (mode : RoundingMode) (x : ℚ) : |mode.excess x| < 1 :=
  mode.abs_round_sub_lt_one x

theorem abs_excess_halfEven_le (x : ℚ) : |halfEven.excess x| ≤ 1 / 2 :=
  abs_nearest_sub_le_half (toEven_eq_floor_or_ceil x)

/-- A number that is nearer than one half to an integer is rounded to it. -/
theorem round_halfEven_eq_of_abs_sub_lt_half {x : ℚ} {n : ℤ} (h : |x - n| < 1 / 2) :
    halfEven.round x = n := by
  have hround := abs_excess_halfEven_le x
  have close : |((halfEven.round x - n : ℤ) : ℚ)| < 1 := by
    calc |((halfEven.round x - n : ℤ) : ℚ)| = |halfEven.excess x + (x - n)| := by
          rw [excess, Int.cast_sub, sub_add_sub_cancel]
      _ ≤ |halfEven.excess x| + |x - n| := abs_add_le _ _
      _ < 1 := by linarith
  exact sub_eq_zero.1 (Int.abs_lt_one_iff.1 (by exact_mod_cast close))

/-- Where no rounding is allowed and there is a result, nothing is added. -/
theorem excess_eq_zero_of_roundWord {x : ℚ} {n : ℤ} (h : unnecessary.roundWord x = .ok n) :
    unnecessary.excess x = 0 := by
  unfold roundWord at h
  split_ifs at h with fits
  obtain ⟨_, allowed | exact⟩ := fits
  · exact absurd rfl allowed
  · obtain ⟨m, rfl⟩ := Int.fract_eq_zero_iff.1 exact
    rw [excess, round_intCast, sub_self]

/-! ### Directions -/

theorem excess_ceiling_nonneg (x : ℚ) : 0 ≤ ceiling.excess x := sub_nonneg.2 (Int.le_ceil x)

theorem excess_floor_nonpos (x : ℚ) : floor.excess x ≤ 0 := sub_nonpos.2 (Int.floor_le x)

/-- Away from zero a number gains its own sign. -/
theorem excess_up_nonneg {x : ℚ} (h : 0 ≤ x) : 0 ≤ up.excess x := by
  rw [excess, round, outward, if_pos h]
  exact excess_ceiling_nonneg x

theorem excess_up_nonpos {x : ℚ} (h : x ≤ 0) : up.excess x ≤ 0 := by
  rcases h.lt_or_eq with below | rfl
  · rw [excess, round, outward, if_neg below.not_ge]
    exact excess_floor_nonpos x
  · simp [excess, round, outward]

/-- Toward zero it loses it. -/
theorem excess_down_nonpos {x : ℚ} (h : 0 ≤ x) : down.excess x ≤ 0 := by
  rw [excess, round, inward, if_pos h]
  exact excess_floor_nonpos x

theorem excess_down_nonneg {x : ℚ} (h : x ≤ 0) : 0 ≤ down.excess x := by
  rcases h.lt_or_eq with below | rfl
  · rw [excess, round, inward, if_neg below.not_ge]
    exact excess_ceiling_nonneg x
  · simp [excess, round, inward]

/-- Two numbers are rounded in one direction by the modes that have only one, and by those that look
at the sign if the numbers have the same. -/
theorem excess_mul_excess_nonneg {mode : RoundingMode} {x y : ℚ}
    (h : mode = ceiling ∨ mode = floor ∨ (mode = up ∨ mode = down) ∧ 0 ≤ x * y) :
    0 ≤ mode.excess x * mode.excess y := by
  rcases h with rfl | rfl | ⟨rfl | rfl, same⟩
  · exact mul_nonneg (excess_ceiling_nonneg x) (excess_ceiling_nonneg y)
  · exact mul_nonneg_of_nonpos_of_nonpos (excess_floor_nonpos x) (excess_floor_nonpos y)
  · rcases mul_nonneg_iff.1 same with ⟨hx, hy⟩ | ⟨hx, hy⟩
    · exact mul_nonneg (excess_up_nonneg hx) (excess_up_nonneg hy)
    · exact mul_nonneg_of_nonpos_of_nonpos (excess_up_nonpos hx) (excess_up_nonpos hy)
  · rcases mul_nonneg_iff.1 same with ⟨hx, hy⟩ | ⟨hx, hy⟩
    · exact mul_nonneg_of_nonpos_of_nonpos (excess_down_nonpos hx) (excess_down_nonpos hy)
    · exact mul_nonneg (excess_down_nonneg hx) (excess_down_nonneg hy)

/-! ### Sums of rounded numbers -/

/-- **Sums of rounded numbers** are too large by the sum of the excesses. -/
theorem sum_map_round (mode : RoundingMode) (xs : List ℚ) :
    (((xs.map mode.round).sum : ℤ) : ℚ) = xs.sum + (xs.map mode.excess).sum := by
  induction xs with
  | nil => simp
  | cons x xs ih =>
    rw [List.map_cons, List.sum_cons, Int.cast_add, ih, List.map_cons, List.sum_cons, List.sum_cons,
      excess]
    ring

/-- To nearest, every number adds at most one half to a sum. -/
theorem abs_sum_excess_halfEven_le (xs : List ℚ) :
    |(xs.map halfEven.excess).sum| ≤ (xs.length : ℚ) / 2 := by
  induction xs with
  | nil => simp
  | cons x xs ih =>
    calc |(List.map halfEven.excess (x :: xs)).sum|
        ≤ |halfEven.excess x| + |(xs.map halfEven.excess).sum| := by
          rw [List.map_cons, List.sum_cons]
          exact abs_add_le _ _
      _ ≤ 1 / 2 + (xs.length : ℚ) / 2 := add_le_add (abs_excess_halfEven_le x) ih
      _ = ((x :: xs).length : ℚ) / 2 := by
          rw [List.length_cons]
          push_cast
          ring

end DecimalMoney.RoundingMode
