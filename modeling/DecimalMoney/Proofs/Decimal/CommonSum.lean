import DecimalMoney.Proofs.Decimal.Bounded
import DecimalMoney.Proofs.Decimal.CommonScale
import DecimalMoney.Proofs.Sums

/-!
# Common sums

A common sum expresses all decimals of a list at their largest scale and adds the units there, on
request to those of one.  The sums on the way have to fit a word only, which up to eight decimals
they always do; so a short sum is decided by the units and the total, whatever their order.

## Main definitions

* `DecimalMoney.Decimal.commonUnits`, `DecimalMoney.Decimal.commonTotal` : the decimals and their
  total in units of the largest scale, of any size.
* `DecimalMoney.Decimal.CommonSumFits` : all units and the total keep to eighteen digits.
* `DecimalMoney.Decimal.PartialTotalsFit` : the sums on the way fit a word.

## Main results

* `DecimalMoney.Decimal.cast_commonTotal` : the total is that of the values.
* `DecimalMoney.Decimal.commonSum_of_fits`, `DecimalMoney.Decimal.commonSum_of_not_fits` : the two
  outcomes of a common sum.
* `DecimalMoney.Decimal.value_of_commonSum` : a common sum is exact, at the largest scale.
* `DecimalMoney.Decimal.partialTotalsFit_of_length_le` : the sums on the way to a short one.
* `DecimalMoney.Decimal.commonSum_exact` : all of this together, in every order.
-/

namespace DecimalMoney.Decimal

variable {z : Decimal} {xs ys : List Decimal} {withOne : Bool}

/-! ### The total -/

/-- What a common sum starts from: nothing, or one at the given scale. -/
def startUnits (withOne : Bool) (scale : Nat) : Int := if withOne then 10 ^ scale else 0

/-- The decimals of a list in units of the largest scale in the list. -/
def commonUnits (xs : List Decimal) : List Int := xs.map fun x => x.unitsAt (greatestScale xs)

/-- The total of a list and, on request, of one, in units of the largest scale in the list. -/
def commonTotal (xs : List Decimal) (withOne : Bool) : Int :=
  startUnits withOne (greatestScale xs) + (commonUnits xs).sum

/-- At the largest scale all decimals of a list and their total have at most eighteen digits. -/
structure CommonSumFits (xs : List Decimal) (withOne : Bool) : Prop where
  /-- The decimals, at the largest scale. -/
  units : ∀ x ∈ xs, FitsDigits (x.unitsAt (greatestScale xs))
  /-- Their total. -/
  total : FitsDigits (commonTotal xs withOne)

/-- The total of every first part of a list fits a word, in units of the largest scale of all. -/
def PartialTotalsFit (xs : List Decimal) (withOne : Bool) : Prop :=
  ∀ k, FitsWord (startUnits withOne (greatestScale xs) + ((commonUnits xs).take k).sum)

theorem cast_startUnits (withOne : Bool) (scale : Nat) :
    (startUnits withOne scale : ℚ) = (if withOne then 1 else 0) * 10 ^ scale := by
  cases withOne <;> simp [startUnits]

/-- One has at most nineteen digits. -/
theorem startUnits_bounds (withOne : Bool) {scale : Nat} (h : scale ≤ maxScale) :
    0 ≤ startUnits withOne scale ∧ startUnits withOne scale ≤ 10 ^ 18 := by
  cases withOne
  · exact ⟨le_rfl, by norm_num [startUnits]⟩
  · exact ⟨(ten_pow_pos scale).le, pow_le_pow_right₀ (by decide) h⟩

/-- **The total is that of the values.** -/
theorem cast_commonTotal (xs : List Decimal) (withOne : Bool) :
    (commonTotal xs withOne : ℚ) =
      ((xs.map value).sum + if withOne then 1 else 0) * 10 ^ greatestScale xs := by
  have units : (xs.map fun x => (x.unitsAt (greatestScale xs) : ℚ)) =
      xs.map fun x => x.value * 10 ^ greatestScale xs :=
    List.map_congr_left fun x hx => cast_unitsAt (scale_le_greatestScale hx)
  rw [commonTotal, commonUnits, Int.cast_add, cast_startUnits, Int.cast_list_sum, List.map_map,
    Function.comp_def, units, List.sum_map_mul_right, add_mul, add_comm]

/-- Up to eight decimals, and one, of eighteen digits each cannot leave the words. -/
theorem partialTotalsFit_of_length_le (short : xs.length ≤ 8)
    (units : ∀ x ∈ xs, FitsDigits (x.unitsAt (greatestScale xs))) :
    PartialTotalsFit xs withOne := by
  intro k
  have start := startUnits_bounds withOne (greatestScale_le_maxScale xs)
  have bound := abs_le.1 (abs_sum_take_le (List.forall_mem_map.2 units) k)
  rw [List.length_map] at bound
  unfold maxMantissa maxScale at bound
  unfold FitsWord commonUnits
  omega

/-! ### The order -/

theorem commonUnits_perm (order : ys.Perm xs) : (commonUnits ys).Perm (commonUnits xs) := by
  rw [commonUnits, greatestScale_perm order]
  exact order.map _

theorem commonTotal_perm (order : ys.Perm xs) (withOne : Bool) :
    commonTotal ys withOne = commonTotal xs withOne := by
  rw [commonTotal, commonTotal, greatestScale_perm order, (commonUnits_perm order).sum_eq]

/-- The order does not matter to what has to fit in the end. -/
theorem CommonSumFits.perm (fits : CommonSumFits xs withOne) (order : ys.Perm xs) :
    CommonSumFits ys withOne := by
  refine ⟨fun y hy => ?_, commonTotal_perm order withOne ▸ fits.total⟩
  rw [greatestScale_perm order]
  exact fits.units y (order.mem_iff.1 hy)

/-! ### Adding at the largest scale -/

/-- The sums on the way are checked as words, and the total by its digits. -/
theorem commonSum_eq (xs : List Decimal) (withOne : Bool) :
    commonSum xs withOne = (do
      let sum ← xs.foldlM (fun sum x => do
        checkWord (sum + (← rescale x.mantissa x.scale (greatestScale xs) .unnecessary)))
        (startUnits withOne (greatestScale xs))
      return atScale (← checkDigits sum) (largestScale xs)) := by
  rw [commonSum]
  simp only [ofUnits_of_scale]
  simp only [startUnits, largestScale_eq_greatestScale]

section Digits

variable (digits : ∀ x ∈ xs, FitsDigits x.mantissa)

include digits

/-- The decimals of the list check their units at the largest scale. -/
theorem mapM_rescale_greatestScale :
    (xs.mapM fun x => rescale x.mantissa x.scale (greatestScale xs) .unnecessary) =
      if ∀ x ∈ xs, FitsDigits (x.unitsAt (greatestScale xs)) then .ok (commonUnits xs)
      else .error .overflow := by
  rw [commonUnits, ← mapM_checkDigits]
  exact mapM_congr_left fun x hx => rescale_eq_checkDigits (digits x hx)
    (scale_le_greatestScale hx) (greatestScale_le_maxScale xs) .unnecessary

/-- Units that fit are added as words, and the total is checked. -/
theorem commonSum_of_units (units : ∀ x ∈ xs, FitsDigits (x.unitsAt (greatestScale xs))) :
    commonSum xs withOne = (do
      let sum ← (commonUnits xs).foldlM (fun sum v => checkWord (sum + v))
        (startUnits withOne (greatestScale xs))
      return atScale (← checkDigits sum) (largestScale xs)) := by
  have values := mapM_rescale_greatestScale digits
  rw [if_pos units] at values
  rw [commonSum_eq, foldlM_checkWord_of_mapM values]

/-- **A common sum is the total** if everything fits. -/
theorem commonSum_of_fits (fits : CommonSumFits xs withOne) (words : PartialTotalsFit xs withOne) :
    commonSum xs withOne = .ok (atScale (commonTotal xs withOne) (largestScale xs)) := by
  rw [commonSum_of_units digits fits.units, foldlM_checkWord_of_forall words, ok_bind]
  exact checkDigits_atScale_eq_ok_iff.2 ⟨fits.total, rfl⟩

/-- **Otherwise it overflows.** -/
theorem commonSum_of_not_fits (unfit : ¬(CommonSumFits xs withOne ∧ PartialTotalsFit xs withOne)) :
    commonSum xs withOne = .error .overflow := by
  by_cases units : ∀ x ∈ xs, FitsDigits (x.unitsAt (greatestScale xs))
  · rw [commonSum_of_units digits units]
    by_cases words : PartialTotalsFit xs withOne
    · have total : ¬FitsDigits (commonTotal xs withOne) := fun total =>
        unfit ⟨⟨units, total⟩, words⟩
      rw [foldlM_checkWord_of_forall words, ok_bind, ← commonTotal,
        checkDigits_eq_overflow_iff.2 total]
      rfl
    · have start : FitsWord (startUnits withOne (greatestScale xs)) := by
        have bounds := startUnits_bounds withOne (greatestScale_le_maxScale xs)
        unfold FitsWord
        omega
      rw [foldlM_checkWord_of_not_forall start words]
      rfl
  · have refused := mapM_rescale_greatestScale digits
    rw [if_neg units] at refused
    rw [commonSum_eq, foldlM_checkWord_of_mapM_overflow refused]
    rfl

/-- Where there is a common sum, it is the total. -/
theorem eq_of_commonSum (h : commonSum xs withOne = .ok z) :
    CommonSumFits xs withOne ∧ z = atScale (commonTotal xs withOne) (largestScale xs) := by
  by_cases fits : CommonSumFits xs withOne ∧ PartialTotalsFit xs withOne
  · rw [commonSum_of_fits digits fits.1 fits.2] at h
    exact ⟨fits.1, (Except.ok.inj h).symm⟩
  · rw [commonSum_of_not_fits digits fits] at h
    cases h

/-- **A common sum is exact**, at the largest scale. -/
theorem value_of_commonSum (h : commonSum xs withOne = .ok z) :
    z.scale = greatestScale xs ∧ z.value = (xs.map value).sum + if withOne then 1 else 0 := by
  obtain ⟨-, rfl⟩ := eq_of_commonSum digits h
  refine ⟨largestScale_eq_greatestScale xs, ?_⟩
  rw [value_atScale, largestScale_eq_greatestScale, cast_commonTotal,
    mul_div_cancel_right₀ _ (cast_ten_pow_ne_zero _)]

/-! ### Short sums -/

/-- **A short common sum is found** if the units and the total fit. -/
theorem commonSum_of_length_le (short : xs.length ≤ 8) (fits : CommonSumFits xs withOne) :
    commonSum xs withOne = .ok (atScale (commonTotal xs withOne) (largestScale xs)) :=
  commonSum_of_fits digits fits (partialTotalsFit_of_length_le short fits.units)

/-- **Its order does not matter.** -/
theorem commonSum_perm (short : xs.length ≤ 8) (order : ys.Perm xs) (withOne : Bool) :
    commonSum ys withOne = commonSum xs withOne := by
  have reordered : ∀ y ∈ ys, FitsDigits y.mantissa := fun y hy => digits y (order.mem_iff.1 hy)
  by_cases fits : CommonSumFits xs withOne
  · have scale : largestScale ys = largestScale xs := Subtype.ext (by
      rw [largestScale_eq_greatestScale, largestScale_eq_greatestScale, greatestScale_perm order])
    rw [commonSum_of_length_le digits short fits, commonSum_of_length_le reordered
      (order.length_eq.trans_le short) (fits.perm order), commonTotal_perm order, scale]
  · rw [commonSum_of_not_fits digits fun both => fits both.1, commonSum_of_not_fits reordered
      fun both => fits (both.1.perm order.symm)]

end Digits

/-- **Common sums are exact, and short ones are decided by their total.**  For decimals of eighteen
digits a common sum has the largest scale in the list, and the value of all decimals together, with
one more on request.  Up to eight decimals have a common sum if at that scale each of them and the
total have at most eighteen digits, and overflow otherwise; so their order does not matter. -/
theorem commonSum_exact (digits : ∀ x ∈ xs, FitsDigits x.mantissa) (withOne : Bool) :
    (∀ z, commonSum xs withOne = .ok z →
      z.scale = greatestScale xs ∧ z.value = (xs.map value).sum + if withOne then 1 else 0) ∧
    (xs.length ≤ 8 →
      ((∃ z, commonSum xs withOne = .ok z) ↔ CommonSumFits xs withOne) ∧
      (¬CommonSumFits xs withOne → commonSum xs withOne = .error .overflow) ∧
      ∀ ys, ys.Perm xs → commonSum ys withOne = commonSum xs withOne) := by
  refine ⟨fun z => value_of_commonSum digits, fun short => ⟨⟨?_, fun fits => ?_⟩, fun unfit => ?_,
    fun ys order => commonSum_perm digits short order withOne⟩⟩
  · rintro ⟨z, h⟩
    exact (eq_of_commonSum digits h).1
  · exact ⟨_, commonSum_of_length_le digits short fits⟩
  · exact commonSum_of_not_fits digits fun both => unfit both.1

/-- One less the last place of scale eighteen, where one alone has too many digits, and one and a
half, which have too many there altogether. -/
theorem commonSum_exact_of_one_less_last_place :
    ∃ xs ys zs : List Decimal, ∃ z : Decimal, (∀ x ∈ xs, FitsDigits x.mantissa) ∧
      (∀ y ∈ zs, FitsDigits y.mantissa) ∧ xs.length ≤ 8 ∧ zs.length ≤ 8 ∧
      ¬FitsDigits (startUnits true (greatestScale xs)) ∧ commonSum xs true = .ok z ∧
      z.scale = greatestScale xs ∧ z.value = (xs.map value).sum + 1 ∧ CommonSumFits xs true ∧
      ys.Perm xs ∧ ys ≠ xs ∧ commonSum ys true = .ok z ∧ commonSum zs true = .error .overflow := by
  let lastPlace : Decimal := ⟨-1, 18, by decide⟩
  let half : Decimal := ⟨5, 1, by decide⟩
  let xs := [lastPlace, zero integerScale]
  let ys := [zero integerScale, lastPlace]
  let zs := [lastPlace, half]
  have hxs : ∀ x ∈ xs, FitsDigits x.mantissa := by decide
  have hzs : ∀ x ∈ zs, FitsDigits x.mantissa := by decide
  have sum : commonSum xs true = .ok (largest ⟨18, le_rfl⟩) := by decide +kernel
  have order : ys.Perm xs := by decide
  have unfit : ¬CommonSumFits zs true := fun fits => absurd fits.total (by decide +kernel)
  obtain ⟨exact, short⟩ := commonSum_exact hxs true
  obtain ⟨scale, value⟩ := exact _ sum
  obtain ⟨decided, -, reordered⟩ := short (by decide)
  exact ⟨xs, ys, zs, _, hxs, hzs, by decide, by decide, by decide +kernel, sum, scale, value,
    decided.1 ⟨_, sum⟩, order, by decide, (reordered ys order).trans sum,
    ((commonSum_exact hzs true).2 (by decide)).2.1 unfit⟩

end DecimalMoney.Decimal
