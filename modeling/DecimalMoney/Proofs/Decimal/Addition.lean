import DecimalMoney.Proofs.Decimal.Bounded
import DecimalMoney.Proofs.Decimal.CommonScale

/-!
# Sums and differences of decimals

Two decimals that are not zero are added at the larger of their scales, where the units of both and
their sum are checked.  A zero is not added: the other operand stays as it is, at its own scale.
Either way the value is the sum of both values, and neither the outcome nor the result depends on
the order of the operands.  Subtracting one operand again leads back to the value of the other and
cannot fail, since nothing is larger then than it was before.

## Main definitions

* `DecimalMoney.Decimal.exactSum` : the sum at the larger scale, of any size.
* `DecimalMoney.Decimal.SumFits` : the sum and what is added keep to eighteen digits.

## Main results

* `DecimalMoney.Decimal.add_of_sumFits`, `DecimalMoney.Decimal.add_of_not_sumFits` : the sum of two
  decimals that are not zero.
* `DecimalMoney.Decimal.value_of_add`, `DecimalMoney.Decimal.scale_of_add` : value and scale.
* `DecimalMoney.Decimal.add_swap` : the order of the operands.
* `DecimalMoney.Decimal.exists_subtract_of_add` : a sum can be undone.
* `DecimalMoney.Decimal.add_exact` : all of this together, with everything that is refused.
-/

namespace DecimalMoney.Decimal

variable {x y z : Decimal}

/-! ### The sum at the larger scale -/

/-- The larger scale of two decimals. -/
def largerScale (x y : Decimal) : Scale :=
  ⟨max x.scale y.scale, max_le x.scale_le y.scale_le⟩

/-- The sum of two decimals at the larger scale, of any size. -/
def exactSum (x y : Decimal) : Decimal :=
  atScale (x.unitsAt (largerScale x y).1 + y.unitsAt (largerScale x y).1) (largerScale x y)

/-- At the larger scale both decimals and their sum have at most eighteen digits. -/
structure SumFits (x y : Decimal) : Prop where
  /-- The first operand, at the larger scale. -/
  left : FitsDigits (x.unitsAt (largerScale x y).1)
  /-- The second operand, at the larger scale. -/
  right : FitsDigits (y.unitsAt (largerScale x y).1)
  /-- Their sum. -/
  sum : FitsDigits (exactSum x y).mantissa

/-- The decimal of smaller scale, the second one if both scales are the same. -/
def narrower (x y : Decimal) : Decimal := if y.scale ≤ x.scale then y else x

theorem scale_le_largerScale_left (x y : Decimal) : x.scale ≤ (largerScale x y).1 :=
  le_max_left x.scale y.scale

theorem scale_le_largerScale_right (x y : Decimal) : y.scale ≤ (largerScale x y).1 :=
  le_max_right x.scale y.scale

theorem largerScale_comm (x y : Decimal) : largerScale x y = largerScale y x :=
  Subtype.ext (max_comm x.scale y.scale)

theorem largerScale_of_le (narrower : y.scale ≤ x.scale) : largerScale x y = x.ownScale :=
  Subtype.ext (max_eq_left narrower)

theorem exactSum_comm (x y : Decimal) : exactSum x y = exactSum y x := by
  rw [exactSum, exactSum, largerScale_comm, add_comm]

theorem SumFits.swap (h : SumFits x y) : SumFits y x :=
  ⟨largerScale_comm x y ▸ h.right, largerScale_comm x y ▸ h.left, exactSum_comm x y ▸ h.sum⟩

theorem value_exactSum (x y : Decimal) : (exactSum x y).value = x.value + y.value := by
  rw [exactSum, value_atScale, Int.cast_add, cast_unitsAt (scale_le_largerScale_left x y),
    cast_unitsAt (scale_le_largerScale_right x y), ← add_mul,
    mul_div_cancel_right₀ _ (cast_ten_pow_ne_zero _)]

/-- Where the first operand has the larger scale, it is added as it is. -/
theorem exactSum_of_le (narrower : y.scale ≤ x.scale) :
    exactSum x y = x.setMantissa (x.mantissa + y.unitsAt x.scale) := by
  have hx : x.unitsAt x.ownScale.1 = x.mantissa := x.unitsAt_self
  rw [exactSum, largerScale_of_le narrower, hx]
  rfl

/-- Only the operand of smaller scale is widened. -/
theorem sumFits_iff_of_le (hx : FitsDigits x.mantissa) (narrower : y.scale ≤ x.scale) :
    SumFits x y ↔
      FitsDigits (y.unitsAt x.scale) ∧ FitsDigits (x.mantissa + y.unitsAt x.scale) := by
  have hscale : (largerScale x y).1 = x.scale := max_eq_left narrower
  have hsum : (exactSum x y).mantissa = x.mantissa + y.unitsAt x.scale := by
    rw [exactSum_of_le narrower, mantissa_setMantissa]
  constructor
  · intro fits
    exact ⟨hscale ▸ fits.right, hsum ▸ fits.sum⟩
  · rintro ⟨right, sum⟩
    refine ⟨?_, hscale ▸ right, hsum ▸ sum⟩
    rw [hscale, unitsAt_self]
    exact hx

/-! ### Addition -/

/-- A mantissa is taken if it has at most eighteen digits. -/
theorem withMantissa_eq_ite (x : Decimal) (m : Int) :
    x.withMantissa m = if FitsDigits m then .ok (x.setMantissa m) else .error .overflow := by
  unfold withMantissa checkDigits
  split_ifs <;> rfl

theorem add_of_right_eq_zero (h : y.mantissa = 0) : x.add y = .ok x := by
  simp [add, h]

theorem add_of_left_eq_zero (hx : x.mantissa = 0) (hy : y.mantissa ≠ 0) : x.add y = .ok y := by
  simp [add, hx, hy]

/-- Decimals of one scale are added as integers. -/
theorem setMantissa_add_setMantissa {m n : Int} (x : Decimal) (hm : FitsDigits m)
    (hn : FitsDigits n) :
    (x.setMantissa m).add (x.setMantissa n) = x.withMantissa (m + n) := by
  by_cases hn0 : n = 0
  · rw [add_of_right_eq_zero hn0, hn0, add_zero]
    exact (withMantissa_eq_ok_iff.2 ⟨hm, rfl⟩).symm
  by_cases hm0 : m = 0
  · rw [add_of_left_eq_zero hm0 hn0, hm0, zero_add]
    exact (withMantissa_eq_ok_iff.2 ⟨hn, rfl⟩).symm
  · simp only [add, isZero_iff, mantissa_setMantissa, scale_setMantissa, hm0, hn0, le_refl, if_true,
      if_false, rescale_self, ok_bind]
    rfl

section Nonzero

variable (hx : FitsDigits x.mantissa) (hy : FitsDigits y.mantissa) (hx0 : x.mantissa ≠ 0)
  (hy0 : y.mantissa ≠ 0)

include hx0 hy0

/-- The operand of smaller scale may stand first. -/
private theorem add_of_scale_lt (wider : x.scale < y.scale) : x.add y = y.add x := by
  simp only [add, isZero_iff, hx0, hy0, not_le.2 wider, wider.le, if_true, if_false]

include hx hy

/-- The outcomes where the first operand has the larger scale. -/
private theorem add_of_scale_le (narrower : y.scale ≤ x.scale) :
    (SumFits x y → x.add y = .ok (exactSum x y)) ∧
      (¬SumFits x y → x.add y = .error .overflow) := by
  have added : x.add y =
      (do x.withMantissa (x.mantissa + (← checkDigits (y.unitsAt x.scale)))) := by
    simp only [add, isZero_iff, hx0, hy0, narrower, if_true, if_false,
      rescale_eq_checkDigits hy narrower x.scale_le]
  rw [added, sumFits_iff_of_le hx narrower, exactSum_of_le narrower]
  by_cases right : FitsDigits (y.unitsAt x.scale)
  · rw [checkDigits_of_fitsDigits right, ok_bind, withMantissa_eq_ite]
    exact ⟨fun fits => if_pos fits.2, fun unfit => if_neg fun sum => unfit ⟨right, sum⟩⟩
  · rw [checkDigits_eq_overflow_iff.2 right]
    exact ⟨fun fits => absurd fits.1 right, fun _ => rfl⟩

/-- **Decimals that are not zero are added at the larger scale**, if everything fits there. -/
theorem add_of_sumFits (fits : SumFits x y) : x.add y = .ok (exactSum x y) := by
  rcases le_or_gt y.scale x.scale with narrower | wider
  · exact (add_of_scale_le hx hy hx0 hy0 narrower).1 fits
  · rw [add_of_scale_lt hx0 hy0 wider, exactSum_comm]
    exact (add_of_scale_le hy hx hy0 hx0 wider.le).1 fits.swap

/-- **Otherwise they overflow.** -/
theorem add_of_not_sumFits (unfit : ¬SumFits x y) : x.add y = .error .overflow := by
  rcases le_or_gt y.scale x.scale with narrower | wider
  · exact (add_of_scale_le hx hy hx0 hy0 narrower).2 unfit
  · rw [add_of_scale_lt hx0 hy0 wider]
    exact (add_of_scale_le hy hx hy0 hx0 wider.le).2 fun fits => unfit fits.swap

theorem sumFits_of_add (h : x.add y = .ok z) : SumFits x y ∧ z = exactSum x y := by
  by_cases fits : SumFits x y
  · rw [add_of_sumFits hx hy hx0 hy0 fits] at h
    exact ⟨fits, (Except.ok.inj h).symm⟩
  · rw [add_of_not_sumFits hx hy hx0 hy0 fits] at h
    cases h

end Nonzero

section Digits

variable (hx : FitsDigits x.mantissa) (hy : FitsDigits y.mantissa)

include hx hy

/-- Nothing is widened but the operand of smaller scale, so only this and the sum can be too
large. -/
theorem not_sumFits_iff : ¬SumFits x y ↔
    ¬FitsDigits ((narrower x y).unitsAt (largerScale x y).1) ∨
      ¬FitsDigits (exactSum x y).mantissa := by
  rw [← not_and_or, not_iff_not]
  constructor
  · intro fits
    refine ⟨?_, fits.sum⟩
    unfold narrower
    split_ifs
    · exact fits.right
    · exact fits.left
  · rintro ⟨widened, sum⟩
    have own : ∀ z : Decimal, z.scale = (largerScale x y).1 → FitsDigits z.mantissa →
        FitsDigits (z.unitsAt (largerScale x y).1) := fun z same hz => by
      rw [← same, unitsAt_self]
      exact hz
    unfold narrower at widened
    split_ifs at widened with smaller
    · exact ⟨own x (max_eq_left smaller).symm hx, widened, sum⟩
    · exact ⟨widened, own y (max_eq_right (not_le.1 smaller).le).symm hy, sum⟩

/-- A sum has at most eighteen digits. -/
theorem fitsDigits_of_add (h : x.add y = .ok z) : FitsDigits z.mantissa := by
  rcases boundedBy_of_add h with bounded | bounded
  · exact bounded.mantissa_le.elim hx.of_natAbs_le id
  · exact bounded.mantissa_le.elim hy.of_natAbs_le id

/-- **A sum is exact.** -/
theorem value_of_add (h : x.add y = .ok z) : z.value = x.value + y.value := by
  by_cases hy0 : y.mantissa = 0
  · rw [add_of_right_eq_zero hy0] at h
    cases h
    rw [value_eq_zero_iff.2 hy0, add_zero]
  by_cases hx0 : x.mantissa = 0
  · rw [add_of_left_eq_zero hx0 hy0] at h
    cases h
    rw [value_eq_zero_iff.2 hx0, zero_add]
  obtain ⟨-, rfl⟩ := sumFits_of_add hx hy hx0 hy0 h
  exact value_exactSum x y

/-- **A sum has the larger scale**, if no operand is zero. -/
theorem scale_of_add (hx0 : x.mantissa ≠ 0) (hy0 : y.mantissa ≠ 0) (h : x.add y = .ok z) :
    z.scale = max x.scale y.scale := by
  obtain ⟨-, rfl⟩ := sumFits_of_add hx hy hx0 hy0 h
  rfl

/-- A sum fails by an overflow, which takes operands that are not zero. -/
theorem add_eq_error_iff {failure : Failure} : x.add y = .error failure ↔
    failure = .overflow ∧ x.mantissa ≠ 0 ∧ y.mantissa ≠ 0 ∧ ¬SumFits x y := by
  by_cases hy0 : y.mantissa = 0
  · simp [add_of_right_eq_zero hy0, hy0]
  by_cases hx0 : x.mantissa = 0
  · simp [add_of_left_eq_zero hx0 hy0, hx0]
  by_cases fits : SumFits x y
  · simp [add_of_sumFits hx hy hx0 hy0 fits, fits]
  · simp [add_of_not_sumFits hx hy hx0 hy0 fits, fits, hx0, hy0, eq_comm]

/-- **The order of the operands does not matter**, if they are not both zero. -/
theorem add_swap (counts : x.mantissa ≠ 0 ∨ y.mantissa ≠ 0) : x.add y = y.add x := by
  by_cases hy0 : y.mantissa = 0
  · have hx0 := counts.resolve_right (not_not.2 hy0)
    rw [add_of_right_eq_zero hy0, add_of_left_eq_zero hy0 hx0]
  by_cases hx0 : x.mantissa = 0
  · rw [add_of_left_eq_zero hx0 hy0, add_of_right_eq_zero hx0]
  by_cases fits : SumFits x y
  · rw [add_of_sumFits hx hy hx0 hy0 fits, add_of_sumFits hy hx hy0 hx0 fits.swap, exactSum_comm]
  · rw [add_of_not_sumFits hx hy hx0 hy0 fits,
      add_of_not_sumFits hy hx hy0 hx0 fun swapped => fits swapped.swap]

/-- In either order there is a sum, and of one value. -/
theorem exists_add_swapped (h : x.add y = .ok z) : ∃ swapped, y.add x = .ok swapped ∧
    swapped.value = z.value ∧ (x.mantissa ≠ 0 ∨ y.mantissa ≠ 0 → swapped = z) := by
  by_cases counts : x.mantissa ≠ 0 ∨ y.mantissa ≠ 0
  · exact ⟨z, (add_swap hx hy counts).symm.trans h, rfl, fun _ => rfl⟩
  · have hx0 : x.mantissa = 0 := not_not.1 (not_or.1 counts).1
    refine ⟨y, add_of_right_eq_zero hx0, ?_, fun h => absurd h counts⟩
    rw [value_of_add hx hy h, value_eq_zero_iff.2 hx0, zero_add]

/-! ### Subtraction -/

/-- What was added can be expressed at the scale of the sum, and so can the rest. -/
theorem fitsDigits_of_sum (hy0 : y.mantissa ≠ 0) (h : x.add y = .ok z) :
    y.scale ≤ z.scale ∧ FitsDigits (y.unitsAt z.scale) ∧
      FitsDigits (z.mantissa - y.unitsAt z.scale) := by
  by_cases hx0 : x.mantissa = 0
  · rw [add_of_left_eq_zero hx0 hy0] at h
    cases h
    rw [unitsAt_self, sub_self]
    exact ⟨le_rfl, hy, fitsDigits_zero⟩
  · obtain ⟨fits, rfl⟩ := sumFits_of_add hx hy hx0 hy0 h
    refine ⟨scale_le_largerScale_right x y, fits.right, ?_⟩
    have rest : (exactSum x y).mantissa - y.unitsAt (largerScale x y).1 =
        x.unitsAt (largerScale x y).1 := add_sub_cancel_right _ _
    exact rest ▸ fits.left

/-- **A sum can be undone**: what is left has the value of the other operand. -/
theorem exists_subtract_of_add (h : x.add y = .ok z) :
    ∃ w, z.subtract y = .ok w ∧ w.value = x.value := by
  have hz := fitsDigits_of_add hx hy h
  have opposite : FitsDigits y.negate.mantissa := hy.neg
  have exact : ∀ w, z.subtract y = .ok w → w.value = x.value := fun w hw => by
    rw [value_of_add hz opposite hw, value_of_add hx hy h, value_negate, add_neg_cancel_right]
  suffices success : ∃ w, z.subtract y = .ok w from success.imp fun w hw => ⟨hw, exact w hw⟩
  by_cases hy0 : y.mantissa = 0
  · exact ⟨z, add_of_right_eq_zero (neg_eq_zero.2 hy0)⟩
  -- A sum that has cancelled is a zero, and what is left is the opposite of what was added.
  by_cases hz0 : z.mantissa = 0
  · exact ⟨y.negate, add_of_left_eq_zero hz0 (neg_ne_zero.2 hy0)⟩
  -- Otherwise nothing is widened that has not been widened for the sum.
  obtain ⟨smaller, widened, rest⟩ := fitsDigits_of_sum hx hy hy0 h
  have fits : SumFits z y.negate := by
    refine (sumFits_iff_of_le (y := y.negate) hz smaller).2 ?_
    rw [unitsAt_negate, ← sub_eq_add_neg]
    exact ⟨widened.neg, rest⟩
  exact ⟨_, add_of_sumFits hz opposite hz0 (neg_ne_zero.2 hy0) fits⟩

end Digits

/-- **Sums of two decimals.**  For mantissas of eighteen digits a sum has the value of the sum; it
has the larger of both scales, unless an operand is zero, which leaves the other one as it is.  In
the other order the sum is the same decimal, or one of the same value if both operands are zero, and
subtracting the second operand from it leads back to the value of the first.  The only failure is an
overflow, in both orders or in none.  It comes of operands that are not zero, where the one of
smaller scale cannot be expressed at the larger scale, or the sum has too many digits there. -/
theorem add_exact (hx : FitsDigits x.mantissa) (hy : FitsDigits y.mantissa) :
    (∀ z, x.add y = .ok z →
      z.value = x.value + y.value ∧
      (x.mantissa ≠ 0 → y.mantissa ≠ 0 → z.scale = max x.scale y.scale) ∧
      (x.mantissa = 0 → y.mantissa ≠ 0 → z = y) ∧ (y.mantissa = 0 → z = x) ∧
      (∃ swapped, y.add x = .ok swapped ∧ swapped.value = z.value ∧
        (x.mantissa ≠ 0 ∨ y.mantissa ≠ 0 → swapped = z)) ∧
      ∃ rest, z.subtract y = .ok rest ∧ rest.value = x.value) ∧
    (∀ failure, x.add y = .error failure → failure = .overflow ∧ y.add x = .error .overflow) ∧
    (x.add y = .error .overflow ↔ x.mantissa ≠ 0 ∧ y.mantissa ≠ 0 ∧
      (¬FitsDigits ((narrower x y).unitsAt (max x.scale y.scale)) ∨
        ¬FitsDigits (x.unitsAt (max x.scale y.scale) + y.unitsAt (max x.scale y.scale)))) := by
  refine ⟨fun z h => ⟨value_of_add hx hy h, fun hx0 hy0 => scale_of_add hx hy hx0 hy0 h, ?_, ?_,
    exists_add_swapped hx hy h, exists_subtract_of_add hx hy h⟩, fun failure h => ?_, ?_⟩
  · intro hx0 hy0
    rw [add_of_left_eq_zero hx0 hy0] at h
    exact (Except.ok.inj h).symm
  · intro hy0
    rw [add_of_right_eq_zero hy0] at h
    exact (Except.ok.inj h).symm
  · obtain ⟨rfl, hx0, hy0, unfit⟩ := (add_eq_error_iff hx hy).1 h
    exact ⟨rfl, add_of_not_sumFits hy hx hy0 hx0 fun fits => unfit fits.swap⟩
  · rw [add_eq_error_iff hx hy, not_sumFits_iff hx hy]
    exact ⟨fun h => h.2, fun h => ⟨rfl, h⟩⟩

/-- Two halves that cancel, where undoing the sum starts from a zero, and an integer so large that
it has no thousandths. -/
theorem add_exact_of_cancelled_and_large :
    ∃ x y z large thousandth : Decimal, FitsDigits x.mantissa ∧ FitsDigits y.mantissa ∧
      FitsDigits large.mantissa ∧ FitsDigits thousandth.mantissa ∧ x.scale < y.scale ∧
      x.add y = .ok z ∧ z.mantissa = 0 ∧ y.add x = .ok z ∧ z.value = x.value + y.value ∧
      z.scale = y.scale ∧ (∃ rest, z.subtract y = .ok rest ∧ rest.value = x.value) ∧
      large.add thousandth = .error .overflow ∧ thousandth.add large = .error .overflow := by
  let x : Decimal := ⟨5, 1, by decide⟩
  let y : Decimal := ⟨-50, 2, by decide⟩
  let large : Decimal := ⟨10 ^ 16, 0, by decide⟩
  let thousandth : Decimal := ⟨1, 3, by decide⟩
  have hx : FitsDigits x.mantissa := by decide
  have hy : FitsDigits y.mantissa := by decide
  have hlarge : FitsDigits large.mantissa := by decide
  have hthousandth : FitsDigits thousandth.mantissa := by decide
  have cancelled : x.add y = .ok (y.setMantissa 0) := by decide +kernel
  obtain ⟨exact, scale, -, -, ⟨swapped, again, -, same⟩, undone⟩ :=
    (add_exact hx hy).1 _ cancelled
  obtain rfl := same (.inl (by decide))
  have refused : large.add thousandth = .error .overflow := by decide +kernel
  exact ⟨x, y, _, large, thousandth, hx, hy, hlarge, hthousandth, by decide, cancelled, rfl, again,
    exact, scale (by decide) (by decide), undone, refused,
    ((add_exact hlarge hthousandth).2.1 _ refused).2⟩

end DecimalMoney.Decimal
