import DecimalMoney.Proofs.Amount.Overrun
import DecimalMoney.Proofs.Amount.Rates
import DecimalMoney.Proofs.Decimal.Value

/-!
# Splits of gross values

A gross value is split by the total of the rates, one plus their sum, which is formed exactly.  Net
value and taxes are rounded on their own, and the net value takes up what they leave over.  So the
error of the net value is that of the taxes, with the opposite sign: at most one half for each of
them.  Whether the net value still fits a word then is not checked; it does not where rates that
cancel each other leave a small total, and there the split overruns.

## Main definitions

* `DecimalMoney.rateTotal` : one plus the sum of all rates.
* `DecimalMoney.TaxSplit.IsSplit` : the numbers that a split should have.

## Main results

* `DecimalMoney.TaxSplit.isSplit_of_ofGross` : a split has the numbers that it should.
* `DecimalMoney.TaxSplit.IsSplit.abs_adjustedNet_sub_le` : the error of the net value.
* `DecimalMoney.TaxSplit.IsSplit.fitsWord_adjustedNet`,
  `DecimalMoney.TaxSplit.IsSplit.large_of_not_fitsWord` : when the net value fits a word.
* `DecimalMoney.Amount.splitTaxes_exact` : net value and taxes of an amount that is split.
* `DecimalMoney.Amount.splitTaxes_steps_fit` : the numbers on the way fit a word, except where the
  split overruns.
-/

namespace DecimalMoney

/-! ### The total of the rates -/

/-- One plus the sum of all rates. -/
def rateTotal (rates : List Decimal) : ℚ := 1 + (rates.map Decimal.value).sum

variable {gross : Int} {rates : List Decimal} {total rate : Decimal}

/-- The sum of the rates and one, at their largest scale, has the exact total as its value. -/
theorem value_of_commonSum (words : ∀ r ∈ rates, FitsWord r.mantissa)
    (h : Decimal.commonSum rates true = .ok total) :
    total.value = rateTotal rates ∧ FitsWord total.mantissa := by
  obtain ⟨aligned, haligned, hmantissa, hdigits⟩ := exists_aligned_of_commonSum h
  refine ⟨?_, hdigits.fitsWord⟩
  have hunit : (10 : ℚ) ^ total.scale / 10 ^ total.scale = 1 :=
    div_self (cast_ten_pow_ne_zero total.scale)
  rw [rateTotal, ← sum_div_of_mapM_rescale words haligned, Decimal.value, hmantissa, if_pos rfl,
    Decimal.unit]
  push_cast
  rw [add_div, hunit]

/-- The net value is the gross value divided by the total. -/
theorem exact_of_netInGross {net : Int} (hgross : FitsWord gross) (htotal : FitsWord total.mantissa)
    (h : Amount.netInGross gross total = .ok net) :
    total.value ≠ 0 ∧ net = RoundingMode.halfEven.round (gross / total.value) := by
  obtain ⟨power, hpower, h⟩ := bind_eq_ok_iff.1 h
  obtain ⟨_, rfl⟩ := powerOfTen_eq_ok_iff.1 hpower
  rw [Int.toNat_natCast] at h
  obtain ⟨nonzero, hround, _⟩ :=
    exact_of_divideProduct hgross (fitsWord_ten_pow total.scale_le) htotal h
  refine ⟨div_ne_zero (by exact_mod_cast nonzero) (cast_ten_pow_ne_zero _), ?_⟩
  rw [hround, Decimal.div_value]

/-- A tax is the gross value times the rate, divided by the total. -/
theorem exact_of_taxInGross {tax : Int} (hgross : FitsWord gross) (htotal : FitsWord total.mantissa)
    (hrate : FitsWord rate.mantissa) (h : Amount.taxInGross gross total rate = .ok tax) :
    tax = RoundingMode.halfEven.round (gross * rate.value / total.value) ∧ FitsWord tax := by
  obtain ⟨aligned, haligned, h⟩ := bind_eq_ok_iff.1 h
  obtain ⟨hvalue, hword⟩ := rescale_exact hrate haligned
  obtain ⟨nonzero, hround, htax⟩ := exact_of_divideProduct hgross hword htotal h
  refine ⟨?_, htax⟩
  rw [hround, ← Decimal.mul_div_value, hvalue]
  rfl

/-! ### The numbers of a split -/

namespace TaxSplit

variable {s : TaxSplit}

/-- The numbers in `s` are those of a gross value that is split at the given rates. -/
structure IsSplit (gross : Int) (rates : List Decimal) (s : TaxSplit) : Prop where
  /-- The total of the rates can be divided by. -/
  total_ne_zero : rateTotal rates ≠ 0
  /-- The net value is rounded on its own. -/
  net_eq : s.net = RoundingMode.halfEven.round (gross / rateTotal rates)
  /-- So is every tax. -/
  taxes_eq : s.taxes =
    rates.map fun r => RoundingMode.halfEven.round (gross * r.value / rateTotal rates)
  /-- The residual is what they leave over. -/
  adds_up : s.net + s.taxes.sum + s.residual = gross
  /-- Every tax fits a word. -/
  taxes_fit : ∀ t ∈ s.taxes, FitsWord t
  /-- So does the net value, and so do the sums of net value and taxes. -/
  sums_fit : PartialSumsFit (s.net :: s.taxes)
  /-- So does the residual. -/
  residual_fits : FitsWord s.residual

/-- **A split yields the numbers that it should.** -/
theorem isSplit_of_ofGross (hgross : FitsWord gross) (words : ∀ r ∈ rates, FitsWord r.mantissa)
    (h : ofGross gross rates = .ok s) : IsSplit gross rates s := by
  obtain ⟨total, htotal, hnet, htaxes, hresidual⟩ := exists_total_of_ofGross h
  obtain ⟨hvalue, hword⟩ := value_of_commonSum words htotal
  obtain ⟨nonzero, net_eq⟩ := exact_of_netInGross hgross hword hnet
  have tax_eq : ∀ r ∈ rates, ∀ t, Amount.taxInGross gross total r = .ok t →
      t = RoundingMode.halfEven.round (gross * r.value / total.value) ∧ FitsWord t :=
    fun r hr t => exact_of_taxInGross hgross hword (words r hr)
  obtain ⟨sums_fit, residual_fits⟩ := fits_of_shortfall hresidual
  rw [hvalue] at nonzero net_eq tax_eq
  refine ⟨nonzero, net_eq, eq_map_of_mapM htaxes fun r hr t ht => (tax_eq r hr t ht).1, ?_,
    forall_mem_of_mapM htaxes fun r hr t ht => (tax_eq r hr t ht).2, sums_fit, residual_fits⟩
  have hgap := gap_eq_of_shortfall hresidual
  rw [gap_cons, List.sum_cons] at hgap
  rw [hgap]
  ring

namespace IsSplit

variable (h : IsSplit gross rates s)

include h

/-- With the residual the net value is what the taxes leave. -/
theorem adjustedNet_eq : s.adjustedNet = gross - s.taxes.sum := by
  have adds_up := h.adds_up
  rw [adjustedNet]
  omega

/-- Before they are rounded, the taxes leave the exact net value. -/
theorem sum_exact_taxes :
    (rates.map fun r => (gross : ℚ) * r.value / rateTotal rates).sum =
      gross - gross / rateTotal rates := by
  have hsum : (rates.map Decimal.value).sum = rateTotal rates - 1 := by
    rw [rateTotal, add_sub_cancel_left]
  have nonzero := h.total_ne_zero
  simp only [div_eq_mul_inv, List.sum_map_mul_right, List.sum_map_mul_left, hsum]
  field_simp

/-- **The adjusted net value is too small by what rounding adds to the taxes.** -/
theorem adjustedNet_sub : (s.adjustedNet : ℚ) - gross / rateTotal rates =
    -((rates.map fun r => (gross : ℚ) * r.value / rateTotal rates).map
      RoundingMode.halfEven.excess).sum := by
  have hround := RoundingMode.halfEven.sum_map_round
    (rates.map fun r => (gross : ℚ) * r.value / rateTotal rates)
  rw [List.map_map, h.sum_exact_taxes] at hround
  rw [h.adjustedNet_eq, h.taxes_eq, Int.cast_sub]
  simp only [Function.comp_def] at hround
  rw [hround]
  ring

/-- **The adjusted net value is off by at most one half for every rate.** -/
theorem abs_adjustedNet_sub_le :
    |(s.adjustedNet : ℚ) - gross / rateTotal rates| ≤ (rates.length : ℚ) / 2 := by
  rw [h.adjustedNet_sub, abs_neg]
  refine (RoundingMode.abs_sum_excess_halfEven_le _).trans_eq ?_
  rw [List.length_map]

/-- An adjusted net value that leaves the words is near to an exact one that is as large. -/
theorem large_of_not_fitsWord (large : ¬FitsWord s.adjustedNet) :
    (2 : ℚ) ^ 63 ≤ |(gross : ℚ) / rateTotal rates| + (rates.length : ℚ) / 2 := by
  have hnear := h.abs_adjustedNet_sub_le
  have hsize : (2 : ℚ) ^ 63 ≤ |(s.adjustedNet : ℚ)| := by
    have : (2 : Int) ^ 63 ≤ |s.adjustedNet| := by
      unfold FitsWord at large
      rw [le_abs]
      omega
    exact_mod_cast this
  have htriangle := abs_sub_abs_le_abs_sub (s.adjustedNet : ℚ) (gross / rateTotal rates)
  linarith

section Nonneg

variable (nonneg : ∀ r ∈ rates, 0 ≤ r.mantissa)

include nonneg

omit h in
/-- Rates that are not negative have values that are not, and their total is positive. -/
theorem rateTotal_pos : (∀ r ∈ rates, 0 ≤ r.value) ∧ 0 < rateTotal rates := by
  have hvalue : ∀ r ∈ rates, 0 ≤ r.value := by
    intro r hr
    have : (0 : ℚ) ≤ r.mantissa := by exact_mod_cast nonneg r hr
    exact div_nonneg this (by positivity)
  have := List.sum_nonneg (List.forall_mem_map.2 hvalue)
  refine ⟨hvalue, ?_⟩
  rw [rateTotal]
  linarith

/-- Net value and taxes are not below zero if the gross value is not. -/
theorem parts_nonneg (hgross : 0 ≤ gross) : 0 ≤ s.net ∧ ∀ t ∈ s.taxes, 0 ≤ t := by
  obtain ⟨hvalue, htotal⟩ := rateTotal_pos nonneg
  have hcast : (0 : ℚ) ≤ gross := by exact_mod_cast hgross
  rw [h.net_eq, h.taxes_eq, List.forall_mem_map]
  exact ⟨RoundingMode.round_nonneg _ (div_nonneg hcast htotal.le), fun r hr =>
    RoundingMode.round_nonneg _ (div_nonneg (mul_nonneg hcast (hvalue r hr)) htotal.le)⟩

/-- Nor are they above zero if the gross value is not. -/
theorem parts_nonpos (hgross : gross ≤ 0) : s.net ≤ 0 ∧ ∀ t ∈ s.taxes, t ≤ 0 := by
  obtain ⟨hvalue, htotal⟩ := rateTotal_pos nonneg
  have hcast : (gross : ℚ) ≤ 0 := by exact_mod_cast hgross
  rw [h.net_eq, h.taxes_eq, List.forall_mem_map]
  exact ⟨RoundingMode.round_nonpos _ (div_nonpos_of_nonpos_of_nonneg hcast htotal.le), fun r hr =>
    RoundingMode.round_nonpos _ (div_nonpos_of_nonpos_of_nonneg
      (mul_nonpos_of_nonpos_of_nonneg hcast (hvalue r hr)) htotal.le)⟩

/-- **Rates that are not negative keep the adjusted net value to a word**: no tax is of the other
sign, so all taxes are no larger than with the net value, and that sum has been checked. -/
theorem fitsWord_adjustedNet (hgross : FitsWord gross) : FitsWord s.adjustedNet := by
  -- the last of the checked sums is that of all of them
  have hsum : FitsWord (s.net + s.taxes.sum) := by
    have hwhole := h.sums_fit (s.taxes.length + 1)
    rwa [List.take_succ_cons, List.take_length, List.sum_cons] at hwhole
  have hadjusted := h.adjustedNet_eq
  unfold FitsWord at *
  rcases le_or_gt 0 gross with above | below
  · obtain ⟨hnet, htaxes⟩ := h.parts_nonneg nonneg above
    have := List.sum_nonneg htaxes
    omega
  · obtain ⟨hnet, htaxes⟩ := h.parts_nonpos nonneg below.le
    have := (List.sum_le_card_nsmul _ 0 htaxes).trans_eq (smul_zero _)
    omega

end Nonneg

end IsSplit

end TaxSplit

namespace Amount

variable {a b : Amount}

/-! ### Splits of amounts -/

/-- An amount that is split has the numbers of the split as its components. -/
theorem exists_isSplit_of_splitTaxes (hgross : FitsWord a.gross)
    (words : ∀ r ∈ rates, FitsWord r.mantissa) (nonempty : rates ≠ [])
    (h : a.splitTaxes rates = .ok b) :
    ∃ s, TaxSplit.IsSplit a.gross rates s ∧ FitsDigits s.adjustedNet ∧
      b = { a with components := s.adjustedNet :: s.taxes } := by
  obtain ⟨_, ⟨none, _⟩ | ⟨s, hs, hdigits, rfl⟩⟩ := splitTaxes_cases h
  · exact absurd none nonempty
  · exact ⟨s, TaxSplit.isSplit_of_ofGross hgross words hs, hdigits, rfl⟩

/-- **Net value and taxes of a gross value.** Where an amount is split, which then has no breakdown,
the total of the rates is not zero; every tax is the exact tax, rounded with ties to even, and the
net value is what the taxes leave.  It has at most eighteen digits and is off the exact net value by
at most one half for every rate. -/
theorem splitTaxes_exact (hgross : FitsWord a.gross) (words : ∀ r ∈ rates, FitsWord r.mantissa)
    (nonempty : rates ≠ []) (h : a.splitTaxes rates = .ok b) :
    let taxes := rates.map fun r =>
      RoundingMode.halfEven.round (a.gross * r.value / rateTotal rates)
    rateTotal rates ≠ 0 ∧ b.currency = a.currency ∧ b.gross = a.gross ∧
    b.components.length = rates.length + 1 ∧
    ∃ net, b.components = net :: taxes ∧ net = a.gross - taxes.sum ∧ |net| ≤ 10 ^ 18 - 1 ∧
      |(net : ℚ) - a.gross / rateTotal rates| ≤ (rates.length : ℚ) / 2 := by
  obtain ⟨s, hsplit, hdigits, rfl⟩ := exists_isSplit_of_splitTaxes hgross words nonempty h
  have htaxes := hsplit.taxes_eq
  refine ⟨hsplit.total_ne_zero, rfl, rfl, ?_, s.adjustedNet, ?_, ?_, abs_le.2 hdigits,
    hsplit.abs_adjustedNet_sub_le⟩
  · rw [List.length_cons, htaxes, List.length_map]
  · rw [htaxes]
  · rw [← htaxes]
    exact hsplit.adjustedNet_eq

/-- A hundred with two taxes. -/
theorem splitTaxes_exact_of_two_rates :
    ∃ (a b : Amount) (rates : List Decimal), a.gross = 10000 ∧ a.splitTaxes rates = .ok b ∧
      b.components = [7936, 1508, 556] ∧ rateTotal rates ≠ 0 ∧
      |(7936 : ℚ) - 10000 / rateTotal rates| ≤ 1 := by
  let euro : Currency := ⟨"EUR", 2, by decide +kernel, by decide⟩
  let rates : List Decimal := [⟨19, 2, by decide⟩, ⟨7, 2, by decide⟩]
  have split : (⟨euro, 10000, []⟩ : Amount).splitTaxes rates =
      .ok ⟨euro, 10000, [7936, 1508, 556]⟩ := by decide +kernel
  have words : ∀ r ∈ rates, FitsWord r.mantissa := by decide
  obtain ⟨nonzero, _, _, _, net, hcomponents, _, _, hnear⟩ :=
    splitTaxes_exact (by decide) words (by decide) split
  obtain rfl : 7936 = net := (List.cons.inj hcomponents).1
  have hlength : (rates.length : ℚ) / 2 = 1 := by norm_num [rates]
  rw [hlength] at hnear
  exact ⟨_, _, rates, rfl, split, rfl, nonzero, by exact_mod_cast hnear⟩

/-- **What is not checked in a split.** Net value, taxes and residual fit a word, and so do the sums
of net value and taxes, for all rates.  The one sum that is not checked is that of net value and
residual: a split overruns exactly where it leaves the words.  This takes a negative rate and an
exact net value about as large as a word. -/
theorem splitTaxes_steps_fit (hgross : FitsWord a.gross)
    (words : ∀ r ∈ rates, FitsWord r.mantissa) :
    (∀ s, TaxSplit.ofGross a.gross rates = .ok s →
      FitsWord s.net ∧ (∀ t ∈ s.taxes, FitsWord t) ∧ PartialSumsFit (s.net :: s.taxes) ∧
      FitsWord s.residual) ∧
    (a.splitTaxes rates = .error .overrun ↔ a.hasBreakdown = false ∧ rates ≠ [] ∧
      ∃ s, TaxSplit.ofGross a.gross rates = .ok s ∧ ¬FitsWord (s.net + s.residual)) ∧
    (a.splitTaxes rates = .error .overrun →
      (∃ r ∈ rates, r.mantissa < 0) ∧
      (2 : ℚ) ^ 63 ≤ |(a.gross : ℚ) / rateTotal rates| + (rates.length : ℚ) / 2) := by
  refine ⟨fun s hs => ?_, splitTaxes_eq_overrun_iff, fun overrun => ?_⟩
  · have hsplit := TaxSplit.isSplit_of_ofGross hgross words hs
    exact ⟨by simpa using hsplit.sums_fit 1, hsplit.taxes_fit, hsplit.sums_fit,
      hsplit.residual_fits⟩
  · obtain ⟨_, _, s, hs, large⟩ := splitTaxes_eq_overrun_iff.1 overrun
    have hsplit := TaxSplit.isSplit_of_ofGross hgross words hs
    refine ⟨?_, hsplit.large_of_not_fitsWord large⟩
    by_contra! nonneg
    exact large (hsplit.fitsWord_adjustedNet nonneg hgross)

/-- Rates that leave little of the total, one of them negative. -/
theorem splitTaxes_steps_fit_of_small_total :
    ∃ (a : Amount) (rates : List Decimal), a.splitTaxes rates = .error .overrun ∧
      (∃ r ∈ rates, r.mantissa < 0) ∧
      ∃ s, TaxSplit.ofGross a.gross rates = .ok s ∧ ¬FitsWord (s.net + s.residual) := by
  let euro : Currency := ⟨"EUR", 2, by decide +kernel, by decide⟩
  let rates : List Decimal := [⟨-956, 3, by decide⟩, ⟨13, 3, by decide⟩]
  have overrun : (⟨euro, 525732206100722221, []⟩ : Amount).splitTaxes rates =
      .error .overrun := by decide +kernel
  have words : ∀ r ∈ rates, FitsWord r.mantissa := by decide
  obtain ⟨_, exactly, only⟩ := splitTaxes_steps_fit
    (a := ⟨euro, 525732206100722221, []⟩) (by decide) words
  exact ⟨_, rates, overrun, (only overrun).1, (exactly.1 overrun).2.2⟩

/-- The net value of this split is the largest word, and one unit is left over. -/
theorem exists_splitTaxes_overrun :
    ∃ (a : Amount) (rates : List Decimal) (s : TaxSplit), a.components = [] ∧ FitsDigits a.gross ∧
      (∀ r ∈ rates, FitsDigits r.mantissa) ∧ TaxSplit.ofGross a.gross rates = .ok s ∧
      FitsWord s.net ∧ FitsWord s.residual ∧ ¬FitsWord (s.net + s.residual) ∧
      a.splitTaxes rates = .error .overrun := by
  let euro : Currency := ⟨"EUR", 2, by decide +kernel, by decide⟩
  let rates : List Decimal := [⟨-956, 3, by decide⟩, ⟨13, 3, by decide⟩]
  have split : TaxSplit.ofGross 525732206100722221 rates =
      .ok ⟨9223372036854775807, [-8817543667233165672, 119903836479112085], 1⟩ := by
    decide +kernel
  exact ⟨⟨euro, 525732206100722221, []⟩, rates, _, rfl, by decide, by decide, split, by decide,
    by decide, by decide, by decide +kernel⟩

end Amount

end DecimalMoney
