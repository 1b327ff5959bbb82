import DecimalMoney.Proofs.Decimal.Addition

/-!
# Sums of lists of decimals

The decimals of a list are added one after another.  The sum has their exact value in any order, but
an order in which the first decimals cancel forgets their scales: the sum on the way is a zero then,
and the next decimal that is not zero is taken as it is.  So the scale of the sum is the largest
scale of what counts behind such a front, and the smallest scale that any front leads to.

## Main definitions

* `DecimalMoney.Decimal.nonzeros` : the decimals of a list that are not zero.
* `DecimalMoney.Decimal.CancelledFront` : a front whose values sum to zero.

## Main results

* `DecimalMoney.Decimal.value_of_sumList` : the sum is exact.
* `DecimalMoney.Decimal.sumList_of_cancelledFront` : a front that cancels can be left out.
* `DecimalMoney.Decimal.exists_scale_of_sumList` : the scale of the sum.
* `DecimalMoney.Decimal.scale_of_sumList_iff`, `DecimalMoney.Decimal.scale_of_sumList_of_nonneg` :
  when it is the largest scale of all that counts.
* `DecimalMoney.Decimal.sumList_exact` : all of this together, in every order.
-/

namespace DecimalMoney.Decimal

variable {x y z : Decimal} {xs ys front back : List Decimal}

/-! ### Decimals that count -/

/-- The decimals of a list that are not zero. -/
def nonzeros (xs : List Decimal) : List Decimal := xs.filter fun x => x.mantissa ≠ 0

@[simp] theorem nonzeros_append (xs ys : List Decimal) :
    nonzeros (xs ++ ys) = nonzeros xs ++ nonzeros ys := List.filter_append xs ys

@[simp] theorem nonzeros_singleton_of_eq_zero (h : x.mantissa = 0) : nonzeros [x] = [] := by
  simp [nonzeros, h]

@[simp] theorem nonzeros_singleton_of_ne_zero (h : x.mantissa ≠ 0) : nonzeros [x] = [x] := by
  simp [nonzeros, h]

theorem nonzeros_eq_nil (h : ∀ x ∈ xs, x.mantissa = 0) : nonzeros xs = [] := by
  simpa [nonzeros, List.filter_eq_nil_iff] using h

/-- A sum of values that is not zero has a term that is not. -/
theorem exists_mantissa_ne_zero (h : (xs.map value).sum ≠ 0) : ∃ x ∈ xs, x.mantissa ≠ 0 := by
  contrapose! h
  exact List.sum_eq_zero (List.forall_mem_map.2 fun x hx => value_eq_zero_iff.2 (h x hx))

/-- A list is split behind a front whose values sum to zero, and what is left is not all zeros. -/
structure CancelledFront (xs front back : List Decimal) : Prop where
  /-- The front and what is left make up the list. -/
  split : xs = front ++ back
  /-- The front sums to zero. -/
  cancels : (front.map value).sum = 0
  /-- Something that counts is left. -/
  counts : ∃ x ∈ back, x.mantissa ≠ 0

/-- Only the last decimal may be left. -/
theorem CancelledFront.last (cancels : (xs.map value).sum = 0) (counts : y.mantissa ≠ 0) :
    CancelledFront (xs ++ [y]) xs [y] :=
  ⟨rfl, cancels, y, List.mem_singleton_self y, counts⟩

/-- Another decimal may follow. -/
theorem CancelledFront.snoc (h : CancelledFront xs front back) (y : Decimal) :
    CancelledFront (xs ++ [y]) front (back ++ [y]) := by
  obtain ⟨x, hx, counts⟩ := h.counts
  exact ⟨by rw [h.split, List.append_assoc], h.cancels, x, List.mem_append_left _ hx, counts⟩

/-! ### Adding one after another -/

/-- The sum goes on from the sum of a front. -/
theorem sumList_append_cases (h : sumList (front ++ back) = .ok (some z)) :
    front = [] ∧ sumList back = .ok (some z) ∨
      ∃ partialSum, sumList front = .ok (some partialSum) ∧ back.foldlM add partialSum = .ok z := by
  cases front with
  | nil => exact .inl ⟨rfl, h⟩
  | cons x front =>
    rw [List.cons_append, sumList, List.foldlM_append, bind_assoc, bind_eq_ok_iff] at h
    obtain ⟨partialSum, hfront, h⟩ := h
    obtain ⟨_, hback, h⟩ := bind_eq_ok_iff.1 h
    cases h
    refine .inr ⟨partialSum, ?_, hback⟩
    rw [sumList, hfront]
    rfl

/-- The last decimal is the sum, or it is added to the sum of those before it. -/
theorem sumList_snoc_cases (h : sumList (xs ++ [y]) = .ok (some z)) :
    xs = [] ∧ z = y ∨
      ∃ partialSum, sumList xs = .ok (some partialSum) ∧ partialSum.add y = .ok z := by
  rcases sumList_append_cases h with ⟨rfl, last⟩ | ⟨partialSum, hxs, added⟩
  · cases last
    exact .inl ⟨rfl, rfl⟩
  · rw [List.foldlM_cons, bind_eq_ok_iff] at added
    obtain ⟨_, added, same⟩ := added
    cases same
    exact .inr ⟨partialSum, hxs, added⟩

/-- A sum that starts from zero forgets that zero, if anything counts. -/
theorem foldlM_add_of_eq_zero (hx : x.mantissa = 0) (counts : ∃ y ∈ ys, y.mantissa ≠ 0) :
    (some <$> ys.foldlM add x) = sumList ys := by
  induction ys generalizing x with
  | nil => simp at counts
  | cons y ys ih =>
    rw [List.foldlM_cons]
    by_cases hy0 : y.mantissa = 0
    · have rest : ∃ y ∈ ys, y.mantissa ≠ 0 := by simpa [hy0] using counts
      rw [add_of_right_eq_zero hy0, ok_bind, ih hx rest, ← ih hy0 rest]
      rfl
    · rw [add_of_left_eq_zero hx hy0, ok_bind]
      rfl

section Digits

variable (digits : ∀ x ∈ xs, FitsDigits x.mantissa)

include digits

/-- **The sum of a list is exact**, and has at most eighteen digits. -/
theorem value_of_sumList (h : sumList xs = .ok (some z)) :
    FitsDigits z.mantissa ∧ z.value = (xs.map value).sum := by
  induction xs using List.reverseRecOn generalizing z with
  | nil => cases h
  | append_singleton xs y ih =>
    rw [List.forall_mem_append, List.forall_mem_singleton] at digits
    obtain ⟨hxs, hy⟩ := digits
    rcases sumList_snoc_cases h with ⟨rfl, rfl⟩ | ⟨partialSum, before, added⟩
    · exact ⟨hy, by simp⟩
    · obtain ⟨hsum, value⟩ := ih hxs before
      refine ⟨fitsDigits_of_add hsum hy added, ?_⟩
      rw [value_of_add hsum hy added, value, List.map_append, List.sum_append, List.map_singleton,
        List.sum_singleton]

/-! ### The scale -/

/-- **A front that cancels can be left out.** -/
theorem sumList_of_cancelledFront (hsplit : CancelledFront xs front back)
    (h : sumList xs = .ok (some z)) : sumList back = .ok (some z) := by
  obtain ⟨rfl, cancels, counts⟩ := hsplit
  rcases sumList_append_cases h with ⟨-, hback⟩ | ⟨partialSum, hfront, hback⟩
  · exact hback
  · -- The front leaves a zero, which is forgotten with its scale.
    have value := (value_of_sumList (fun x hx => digits x (List.mem_append_left back hx)) hfront).2
    have zero : partialSum.mantissa = 0 := value_eq_zero_iff.1 (value.trans cancels)
    rw [← foldlM_add_of_eq_zero zero counts, hback]
    rfl

/-- **The scale of a sum** is the largest scale of what counts behind a front that cancels. -/
theorem exists_scale_of_sumList (counts : ∃ x ∈ xs, x.mantissa ≠ 0)
    (h : sumList xs = .ok (some z)) :
    ∃ front back, CancelledFront xs front back ∧ z.scale = greatestScale (nonzeros back) := by
  induction xs using List.reverseRecOn generalizing z with
  | nil => cases h
  | append_singleton xs y ih =>
    rw [List.forall_mem_append, List.forall_mem_singleton] at digits
    obtain ⟨hxs, hy⟩ := digits
    -- Where nothing has counted so far, the last decimal is the sum as it is.
    have alone : y.mantissa ≠ 0 → (xs.map value).sum = 0 → z = y →
        ∃ front back, CancelledFront (xs ++ [y]) front back ∧
          z.scale = greatestScale (nonzeros back) := fun hy0 cancels hz =>
      ⟨xs, [y], .last cancels hy0, by simp [hy0, hz]⟩
    rcases sumList_snoc_cases h with ⟨rfl, rfl⟩ | ⟨partialSum, before, added⟩
    · exact alone (by simpa using counts) rfl rfl
    obtain ⟨hsum, value⟩ := value_of_sumList hxs before
    by_cases hy0 : y.mantissa = 0
    · have earlier : ∃ x ∈ xs, x.mantissa ≠ 0 := by
        simpa [hy0, or_and_right, exists_or] using counts
      obtain ⟨front, back, hsplit, hscale⟩ := ih hxs earlier before
      rw [add_of_right_eq_zero hy0] at added
      cases added
      exact ⟨front, back ++ [y], hsplit.snoc y, by simp [hscale, hy0]⟩
    by_cases hzero : partialSum.mantissa = 0
    · rw [add_of_left_eq_zero hzero hy0] at added
      exact alone hy0 (value.symm.trans (value_eq_zero_iff.2 hzero)) (Except.ok.inj added).symm
    · have earlier := exists_mantissa_ne_zero (value ▸ mt value_eq_zero_iff.1 hzero)
      obtain ⟨front, back, hsplit, hscale⟩ := ih hxs earlier before
      refine ⟨front, back ++ [y], hsplit.snoc y, ?_⟩
      rw [scale_of_add hsum hy hzero hy0 added, hscale]
      simp [hy0]

/-- It is the smallest one that such a front leads to. -/
theorem scale_le_of_cancelledFront (hsplit : CancelledFront xs front back)
    (h : sumList xs = .ok (some z)) : z.scale ≤ greatestScale (nonzeros back) := by
  have hback : ∀ x ∈ back, FitsDigits x.mantissa := fun x hx =>
    digits x (hsplit.split ▸ List.mem_append_right front hx)
  obtain ⟨front', back', hsplit', hscale⟩ :=
    exists_scale_of_sumList hback hsplit.counts (sumList_of_cancelledFront digits hsplit h)
  rw [hscale, hsplit'.split, nonzeros_append, greatestScale_append]
  exact le_max_right _ _

/-- **The largest scale of all that counts** is that of the sum if no front that cancels has a
larger scale than what is left. -/
theorem scale_of_sumList_iff (counts : ∃ x ∈ xs, x.mantissa ≠ 0) (h : sumList xs = .ok (some z)) :
    z.scale = greatestScale (nonzeros xs) ↔ ∀ front back, CancelledFront xs front back →
      greatestScale (nonzeros front) ≤ greatestScale (nonzeros back) := by
  constructor
  · intro hscale front back hsplit
    have smallest := scale_le_of_cancelledFront digits hsplit h
    rw [hscale, hsplit.split, nonzeros_append, greatestScale_append] at smallest
    exact (le_max_left _ _).trans smallest
  · intro ordered
    obtain ⟨front, back, hsplit, hscale⟩ := exists_scale_of_sumList digits counts h
    rw [hscale, hsplit.split, nonzeros_append, greatestScale_append]
    exact (max_eq_right (ordered front back hsplit)).symm

/-- **Decimals that are not below zero** do not cancel, so nothing that counts is forgotten. -/
theorem scale_of_sumList_of_nonneg (nonneg : ∀ x ∈ xs, 0 ≤ x.mantissa)
    (counts : ∃ x ∈ xs, x.mantissa ≠ 0) (h : sumList xs = .ok (some z)) :
    z.scale = greatestScale (nonzeros xs) := by
  refine (scale_of_sumList_iff digits counts h).2 fun front back hsplit => ?_
  have hfront : ∀ v ∈ front.map value, 0 ≤ v := List.forall_mem_map.2 fun x hx =>
    div_nonneg (Int.cast_nonneg (nonneg x (hsplit.split ▸ List.mem_append_left back hx)))
      (by positivity)
  have zeros : ∀ x ∈ front, x.mantissa = 0 := fun x hx =>
    value_eq_zero_iff.1 (List.all_zero_of_le_zero_le_of_sum_eq_zero hfront hsplit.cancels
      (List.mem_map_of_mem hx))
  rw [nonzeros_eq_nil zeros]
  exact Nat.zero_le _

/-- In another order the sum has the same value, and so it is the same if its scale is. -/
theorem eq_iff_scale_eq_of_perm {w : Decimal} (order : ys.Perm xs)
    (h : sumList xs = .ok (some z)) (h' : sumList ys = .ok (some w)) :
    w.value = z.value ∧ (w = z ↔ w.scale = z.scale) := by
  have reordered : ∀ y ∈ ys, FitsDigits y.mantissa := fun y hy => digits y (order.mem_iff.1 hy)
  have same : w.value = z.value := by
    rw [(value_of_sumList reordered h').2, (value_of_sumList digits h).2]
    exact (order.map value).sum_eq
  exact ⟨same, fun h => h ▸ rfl, fun hscale => eq_of_value_eq hscale same⟩

end Digits

/-- **The sum of a list is exact, and its scale is that of what has not cancelled.**  A list of
decimals of eighteen digits, which are not all zero, has the sum of the values as its sum.  Its
scale is the largest scale of what counts behind some front of the list that cancels, and no such
front leads to a smaller one; the front can be left out.  So it is the largest scale of all that
counts if and only if no front that cancels has a larger scale than what is left.  In another order
the sum, if there is one, has the same value, and is the same decimal if its scale is the same. -/
theorem sumList_exact (digits : ∀ x ∈ xs, FitsDigits x.mantissa)
    (counts : ∃ x ∈ xs, x.mantissa ≠ 0) (h : sumList xs = .ok (some z)) :
    z.value = (xs.map value).sum ∧
    (∃ front back, CancelledFront xs front back ∧ z.scale = greatestScale (nonzeros back)) ∧
    (∀ front back, CancelledFront xs front back →
      z.scale ≤ greatestScale (nonzeros back) ∧ sumList back = .ok (some z)) ∧
    (z.scale = greatestScale (nonzeros xs) ↔ ∀ front back, CancelledFront xs front back →
      greatestScale (nonzeros front) ≤ greatestScale (nonzeros back)) ∧
    (∀ ys w, ys.Perm xs → sumList ys = .ok (some w) →
      w.value = z.value ∧ (w = z ↔ w.scale = z.scale)) :=
  ⟨(value_of_sumList digits h).2, exists_scale_of_sumList digits counts h,
    fun _ _ hsplit => ⟨scale_le_of_cancelledFront digits hsplit h,
      sumList_of_cancelledFront digits hsplit h⟩,
    scale_of_sumList_iff digits counts h,
    fun _ _ order h' => eq_iff_scale_eq_of_perm digits order h h'⟩

/-- A half and two zeros less a quarter, where nothing cancels; and two thousandths that cancel in
front of an integer. -/
theorem sumList_exact_of_quarter_and_integer :
    ∃ (xs ys front back : List Decimal) (z w : Decimal), (∀ x ∈ xs, FitsDigits x.mantissa) ∧
      (∃ x ∈ xs, x.mantissa ≠ 0) ∧ sumList xs = .ok (some z) ∧ z.value = (xs.map value).sum ∧
      z.scale = greatestScale (nonzeros xs) ∧ (∀ front back, CancelledFront xs front back →
        greatestScale (nonzeros front) ≤ greatestScale (nonzeros back)) ∧
      (∀ y ∈ ys, FitsDigits y.mantissa) ∧ sumList ys = .ok (some w) ∧
      CancelledFront ys front back ∧ front ≠ [] ∧ sumList back = .ok (some w) ∧
      w.scale < greatestScale (nonzeros ys) := by
  let half : Decimal := ⟨5, 1, by decide⟩
  let zero : Decimal := ⟨0, 6, by decide⟩
  let quarter : Decimal := ⟨25, 2, by decide⟩
  let thousandth : Decimal := ⟨1, 3, by decide⟩
  let five : Decimal := ⟨5, 0, by decide⟩
  let xs := [zero, half, zero, quarter.negate]
  let ys := [thousandth, thousandth.negate, five]
  have hxs : ∀ x ∈ xs, FitsDigits x.mantissa := by decide
  have hys : ∀ y ∈ ys, FitsDigits y.mantissa := by decide
  have hxs0 : ∃ x ∈ xs, x.mantissa ≠ 0 := by decide
  have hys0 : ∃ y ∈ ys, y.mantissa ≠ 0 := by decide
  have sum : sumList xs = .ok (some quarter) := by decide +kernel
  have integer : sumList ys = .ok (some five) := by decide +kernel
  have hsplit : CancelledFront ys [thousandth, thousandth.negate] [five] :=
    ⟨rfl, by simp, five, List.mem_singleton_self five, by decide⟩
  have hscale : quarter.scale = greatestScale (nonzeros xs) := by decide +kernel
  obtain ⟨exact, -, -, largest, -⟩ := sumList_exact hxs hxs0 sum
  obtain ⟨-, -, smallest, -⟩ := sumList_exact hys hys0 integer
  exact ⟨xs, ys, _, _, quarter, five, hxs, hxs0, sum, exact, hscale, largest.1 hscale, hys, integer,
    hsplit, by simp, (smallest _ _ hsplit).2, by decide +kernel⟩

/-- Thousandths cancel in front of an integer and are forgotten, but not behind it. -/
theorem exists_order_loses_scale :
    ∃ (xs ys : List Decimal) (z w : Decimal), (∀ x ∈ xs, FitsDigits x.mantissa) ∧
      (∃ x ∈ xs, x.mantissa ≠ 0) ∧ ys.Perm xs ∧ sumList xs = .ok (some z) ∧
      sumList ys = .ok (some w) ∧ w.scale = greatestScale (nonzeros ys) ∧
      z.scale ≠ greatestScale (nonzeros xs) ∧ w ≠ z := by
  let thousandth : Decimal := ⟨1, 3, by decide⟩
  let five : Decimal := ⟨5, 0, by decide⟩
  exact ⟨[thousandth, thousandth.negate, five], [five, thousandth, thousandth.negate], five,
    ⟨5000, 3, by decide⟩, by decide, by decide, by decide, by decide +kernel,
    by decide +kernel, by decide +kernel, by decide +kernel, by decide⟩

end DecimalMoney.Decimal
