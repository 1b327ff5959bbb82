import DecimalMoney.Proofs.Decimal.Comparison
import DecimalMoney.Proofs.Decimal.Value

/-!
# The numeric order

A comparison of scaled integers looks at signs, then at a difference in which one number has been
truncated, and only then at the exact difference.  Truncation moves a number toward zero by less than
one unit, so that the first two looks decide as the third one would: where none of its steps leaves
the words, the comparison is the order of the exact numbers.

## Main results

* `DecimalMoney.mul_lt_mul_of_tdiv_lt_tdiv` : truncated quotients of numbers of one sign that differ
  are in the order of the exact quotients.
* `DecimalMoney.scaledOrder_of_fits` : the exact difference decides.
* `DecimalMoney.Decimal.HasOpposite.compare_eq` : decimals are in the order of their values.
* `DecimalMoney.Decimal.exists_transCmp_compare` : this order is a total preorder.
* `DecimalMoney.scaledOrder_exact` : what a comparison of words computes, and where it overruns.
-/

namespace DecimalMoney

/-- Two comparisons agree where the strict orders do. -/
theorem compare_eq_compare_of_lt_iff {α β : Type} [LinearOrder α] [LinearOrder β] {a b : α}
    {c d : β} (less : a < b ↔ c < d) (greater : b < a ↔ d < c) : compare a b = compare c d := by
  rcases lt_trichotomy a b with below | rfl | above
  · rw [compare_lt_iff_lt.2 below, compare_lt_iff_lt.2 (less.1 below)]
  · have : c = d := le_antisymm (not_lt.1 fun h => lt_irrefl a (greater.2 h))
      (not_lt.1 fun h => lt_irrefl a (less.2 h))
    rw [this, compare_eq_iff_eq.2 rfl, compare_eq_iff_eq.2 rfl]
  · rw [compare_gt_iff_gt.2 above, compare_gt_iff_gt.2 (greater.1 above)]

/-! ### Signs and truncated quotients -/

/-- Numbers of different signs are in the order of their signs. -/
theorem compare_sign {x y : Int} (h : x.sign ≠ y.sign) :
    compare x.sign y.sign = compare (x - y) 0 := by
  apply compare_eq_compare_of_lt_iff <;>
    rcases lt_trichotomy x 0 with hx | rfl | hx <;> rcases lt_trichotomy y 0 with hy | rfl | hy <;>
    simp_all [Int.sign_eq_neg_one_of_neg, Int.sign_eq_one_of_pos] <;> omega

/-- Truncated quotients that differ are in the order of the exact ones, if the larger one belongs to a
number that is not negative. -/
private theorem mul_lt_mul_of_tdiv_lt_tdiv_of_nonneg {x y p q : Int} (hy : 0 ≤ y) (hp : 0 < p)
    (hq : 0 < q) (h : x.tdiv p < y.tdiv q) : x * q < y * p := by
  have hxp := Int.tdiv_mul_add_tmod x p
  have hyq := Int.tdiv_mul_add_tmod y q
  have hrest := Int.tmod_lt_of_pos x hp
  have hrest' := Int.tmod_nonneg q hy
  calc x * q < (x.tdiv p + 1) * p * q := mul_lt_mul_of_pos_right (by linarith) hq
    _ ≤ y.tdiv q * p * q := by gcongr; exact h
    _ = y.tdiv q * q * p := mul_right_comm _ _ _
    _ ≤ y * p := mul_le_mul_of_nonneg_right (by linarith) hp.le

/-- **Truncated quotients that differ are in the order of the exact ones**, for numbers of one
sign. -/
theorem mul_lt_mul_of_tdiv_lt_tdiv {x y p q : Int} (same : x.sign = y.sign) (hp : 0 < p)
    (hq : 0 < q) (h : x.tdiv p < y.tdiv q) : x * q < y * p := by
  rcases le_total 0 x with nonneg | nonpos
  · have hy : 0 ≤ y := Int.sign_nonneg_iff.1 (same ▸ Int.sign_nonneg_iff.2 nonneg)
    exact mul_lt_mul_of_tdiv_lt_tdiv_of_nonneg hy hp hq h
  · have opposite : (-y).tdiv q < (-x).tdiv p := by
      rw [Int.neg_tdiv, Int.neg_tdiv]
      exact neg_lt_neg h
    have hlt := mul_lt_mul_of_tdiv_lt_tdiv_of_nonneg (neg_nonneg.2 nonpos) hq hp opposite
    linarith

/-! ### Comparison -/

variable {m₁ m₂ : Int} {s₁ s₂ : Nat}

/-- The coarse difference has the sign of the fine one where it does not vanish. -/
theorem compare_coarseDifference (same : m₁.sign = m₂.sign)
    (differs : coarseDifference m₁ s₁ m₂ s₂ ≠ 0) :
    compare (coarseDifference m₁ s₁ m₂ s₂) 0 = compare (fineDifference m₁ s₁ m₂ s₂) 0 := by
  have less : coarseDifference m₁ s₁ m₂ s₂ < 0 → fineDifference m₁ s₁ m₂ s₂ < 0 := fun h =>
    sub_neg.2 (mul_lt_mul_of_tdiv_lt_tdiv same (ten_pow_pos _) (ten_pow_pos _) (sub_neg.1 h))
  have greater : 0 < coarseDifference m₁ s₁ m₂ s₂ → 0 < fineDifference m₁ s₁ m₂ s₂ := fun h =>
    sub_pos.2 (mul_lt_mul_of_tdiv_lt_tdiv same.symm (ten_pow_pos _) (ten_pow_pos _) (sub_pos.1 h))
  apply compare_eq_compare_of_lt_iff
  · exact ⟨less, fun h => differs.lt_or_gt.resolve_right fun above => h.asymm (greater above)⟩
  · exact ⟨greater, fun h => differs.lt_or_gt.resolve_left fun below => h.asymm (less below)⟩

/-- Numbers of different signs are in the order of their signs, at whatever scales. -/
theorem compare_sign_eq_compare_fineDifference (s₁ s₂ : Nat) (differ : m₁.sign ≠ m₂.sign) :
    compare m₁.sign m₂.sign = compare (fineDifference m₁ s₁ m₂ s₂) 0 := by
  have hsign : ∀ (m : Int) (k : Nat), (m * 10 ^ k).sign = m.sign := fun m k => by
    rw [Int.sign_mul, Int.sign_eq_one_of_pos (ten_pow_pos k), mul_one]
  rw [← hsign m₁ (s₂ - s₁), ← hsign m₂ (s₁ - s₂)] at differ ⊢
  exact compare_sign differ

/-- At one scale mantissas are in the order of their difference. -/
theorem compare_eq_compare_fineDifference (m₁ m₂ : Int) (s : Nat) :
    compare m₁ m₂ = compare (fineDifference m₁ s m₂ s) 0 := by
  rw [fineDifference_self_scale]
  exact (compare_eq_compare_of_lt_iff sub_neg sub_pos).symm

/-- **The exact difference decides**, though a comparison looks at it last. -/
theorem scaledOrder_of_fits (fits : ComparisonFits m₁ s₁ m₂ s₂) :
    scaledOrder m₁ s₁ m₂ s₂ = .ok (compare (fineDifference m₁ s₁ m₂ s₂) 0) := by
  have power : tabledPower (max s₁ s₂ - min s₁ s₂) = .ok (10 ^ (max s₁ s₂ - min s₁ s₂)) := by
    rw [tabledPower, fits.power]
  unfold scaledOrder
  split_ifs with signs zero same
  · rw [compare_sign_eq_compare_fineDifference s₁ s₂ signs]
  · have zero' : m₂ = 0 := Int.sign_eq_zero_iff_zero.1 (by rw [← not_not.1 signs, zero]; rfl)
    rw [zero, zero', fineDifference, zero_mul, zero_mul]
    rfl
  · rw [same, compare_eq_compare_fineDifference m₁ m₂ s₂]
  · have same := not_not.1 signs
    rw [power, ok_bind, trapWord_of_fitsWord (fits.coarse same), ok_bind]
    split_ifs with differs
    · exact congrArg Except.ok (compare_coarseDifference same differs)
    · obtain ⟨left, right⟩ := fits.products (not_not.1 differs)
      have fine := fits.fine (not_not.1 differs)
      rw [fineDifference] at fine ⊢
      rw [trapWord_of_fitsWord left, ok_bind, trapWord_of_fitsWord right, ok_bind,
        trapWord_of_fitsWord fine]
      rfl

/-- The exact difference, in units of the larger scale, orders the exact numbers. -/
theorem compare_fineDifference (m₁ : Int) (s₁ : Nat) (m₂ : Int) (s₂ : Nat) :
    compare (fineDifference m₁ s₁ m₂ s₂) 0 =
      compare ((m₁ : ℚ) / 10 ^ s₁) ((m₂ : ℚ) / 10 ^ s₂) := by
  have hpos : ∀ n : Nat, (0 : ℚ) < 10 ^ n := fun n => by positivity
  have hless : ∀ (m n : Int) (s t : Nat), (m : ℚ) / 10 ^ s < n / 10 ^ t ↔
      m * 10 ^ (t - s) < n * 10 ^ (s - t) := by
    intro m n s t
    have unit := ten_pow_pos (min s t)
    have left : (10 : Int) ^ t = 10 ^ (t - s) * 10 ^ min s t := by
      rw [← pow_add]
      congr 1
      omega
    have right : (10 : Int) ^ s = 10 ^ (s - t) * 10 ^ min s t := by
      rw [← pow_add]
      congr 1
      omega
    have cross : (m : ℚ) * 10 ^ t < n * 10 ^ s ↔ m * 10 ^ t < n * 10 ^ s := by
      exact_mod_cast Iff.rfl
    rw [div_lt_div_iff₀ (hpos s) (hpos t), cross, left, right, ← mul_assoc, ← mul_assoc,
      mul_lt_mul_iff_left₀ unit]
  apply compare_eq_compare_of_lt_iff
  · rw [hless, fineDifference, sub_neg]
  · rw [hless, fineDifference, sub_pos]

/-- **A comparison is the order of the exact numbers**, unless the least word is subtracted from
zero. -/
theorem scaledOrder_eq (h₁ : FitsWord m₁) (h₂ : FitsWord m₂)
    (near : max s₁ s₂ - min s₁ s₂ ≤ maxScale) :
    scaledOrder m₁ s₁ m₂ s₂ =
      if SubtractsLeastWord m₁ s₁ m₂ s₂ then .error .overrun
      else .ok (compare ((m₁ : ℚ) / 10 ^ s₁) ((m₂ : ℚ) / 10 ^ s₂)) := by
  split_ifs with least
  · exact scaledOrder_of_subtractsLeastWord least h₁ near
  · rw [scaledOrder_of_fits ((comparisonFits_iff h₁ h₂ near).2 least), compare_fineDifference]

namespace Decimal

/-- Decimals are in the order of their values. -/
theorem HasOpposite.compare_eq {x y : Decimal} (hx : x.HasOpposite) (hy : y.HasOpposite) :
    x.compare y = .ok (Ord.compare x.value y.value) := by
  rw [compare, scaledOrder_of_fits (hx.comparisonFits hy), compare_fineDifference]
  rfl

/-- **The order of decimals is a total preorder.** -/
theorem exists_transCmp_compare :
    ∃ order : Decimal → Decimal → Ordering, Std.TransCmp order ∧
      ∀ x y : Decimal, x.HasOpposite → y.HasOpposite → x.compare y = .ok (order x y) :=
  ⟨fun x y => Ord.compare x.value y.value,
    { eq_swap := Std.OrientedCmp.eq_swap, isLE_trans := Std.TransCmp.isLE_trans },
    fun _ _ => HasOpposite.compare_eq⟩

/-- At one scale it is the order of the mantissas. -/
theorem compare_eq_compareUnits {x y : Decimal} (same : x.scale = y.scale) :
    x.compare y = .ok (x.compareUnits y) := by
  rw [compare, compareUnits, same, scaledOrder, if_pos rfl]
  split_ifs with signs zero
  · rw [compare_sign_eq_compare_fineDifference 0 0 signs, ← compare_eq_compare_fineDifference]
  · have zero' : y.mantissa = 0 :=
      Int.sign_eq_zero_iff_zero.1 (by rw [← not_not.1 signs, zero]; rfl)
    rw [zero, zero']
    rfl
  · rfl

end Decimal

/-- **Comparisons of words.** For words at scales that are at most eighteen apart a comparison is the
order of the exact numbers, with one exception.  Where the least word at a smaller scale is compared
with a number of larger scale between minus one unit of that smaller scale and zero, it overruns;
there and nowhere else one of its steps leaves the words or the table of powers of ten.  Decimals,
which never have the least word as a mantissa, are compared as a total preorder that is the order of
their values, and at one scale that of their mantissas. -/
theorem scaledOrder_exact (h₁ : FitsWord m₁) (h₂ : FitsWord m₂)
    (near : max s₁ s₂ - min s₁ s₂ ≤ maxScale) :
    scaledOrder m₁ s₁ m₂ s₂ =
      (if s₂ < s₁ ∧ m₂ = -0x8000000000000000 ∧ -10 ^ (s₁ - s₂) < m₁ ∧ m₁ < 0 then .error .overrun
      else .ok (compare ((m₁ : ℚ) / 10 ^ s₁) ((m₂ : ℚ) / 10 ^ s₂))) ∧
    (ComparisonFits m₁ s₁ m₂ s₂ ↔ ∃ order, scaledOrder m₁ s₁ m₂ s₂ = .ok order) ∧
    (∃ order : Decimal → Decimal → Ordering, Std.TransCmp order ∧
      ∀ x y : Decimal, x.HasOpposite → y.HasOpposite → x.compare y = .ok (order x y)) ∧
    (∀ x y : Decimal, x.HasOpposite → y.HasOpposite →
      x.compare y = .ok (compare x.value y.value)) ∧
    ∀ x y : Decimal, x.scale = y.scale → x.compare y = .ok (x.compareUnits y) := by
  refine ⟨scaledOrder_eq h₁ h₂ near, ⟨fun fits => ⟨_, scaledOrder_of_fits fits⟩, ?_⟩,
    Decimal.exists_transCmp_compare, fun _ _ => Decimal.HasOpposite.compare_eq,
    fun _ _ => Decimal.compare_eq_compareUnits⟩
  rintro ⟨order, hok⟩
  rw [comparisonFits_iff h₁ h₂ near]
  intro least
  rw [scaledOrder_of_subtractsLeastWord least h₁ near] at hok
  cases hok

/-- The least word at a larger scale, where nothing overruns, and its exact order. -/
theorem scaledOrder_exact_at_least_word :
    FitsWord (-0x8000000000000000) ∧ FitsWord (-9) ∧
      max 18 0 - min 18 0 ≤ maxScale ∧
      scaledOrder (-0x8000000000000000) 18 (-9) 0 = .ok .lt ∧
      compare (((-0x8000000000000000 : Int) : ℚ) / 10 ^ 18) (((-9 : Int) : ℚ) / 10 ^ 0) = .lt ∧
      ComparisonFits (-0x8000000000000000) 18 (-9) 0 := by
  have least : FitsWord (-0x8000000000000000) := by decide
  have small : FitsWord (-9) := by decide
  have near : max 18 0 - min 18 0 ≤ maxScale := by decide
  have order : scaledOrder (-0x8000000000000000) 18 (-9) 0 = .ok .lt := by decide +kernel
  obtain ⟨exact, fits, -⟩ := scaledOrder_exact least small near
  rw [order, if_neg (by decide)] at exact
  exact ⟨least, small, near, order, (Except.ok.inj exact).symm, fits.2 ⟨_, order⟩⟩

/-- A tenth below zero and the least word: the exact order is plain, and in the other direction the
comparison finds it, but the coarse difference is one beyond the words. -/
theorem exists_scaledOrder_overrun :
    ∃ (m₁ : Int) (s₁ : Nat) (m₂ : Int) (s₂ : Nat), FitsWord m₁ ∧ FitsWord m₂ ∧
      max s₁ s₂ - min s₁ s₂ ≤ maxScale ∧
      compare ((m₁ : ℚ) / 10 ^ s₁) ((m₂ : ℚ) / 10 ^ s₂) = .gt ∧
      scaledOrder m₁ s₁ m₂ s₂ = .error .overrun ∧ ¬FitsWord (coarseDifference m₁ s₁ m₂ s₂) ∧
      scaledOrder m₂ s₂ m₁ s₁ = .ok .lt := by
  refine ⟨-1, 1, -0x8000000000000000, 0, by decide, by decide, by decide, ?_, by decide +kernel,
    by decide +kernel, by decide +kernel⟩
  rw [compare_gt_iff_gt]
  norm_num

end DecimalMoney
