import DecimalMoney.Proofs.Amount.Split

/-!
# Taxes that are added and split off again

One tax at a rate that is not negative is added to a net value, and the gross value is split at the
same rate.  Adding the tax rounds once and so misses the exact gross value by one half at most; the
split divides this error by one plus the rate.  What is left of it is less than one half, so that
both divisions of the split are rounded back to the numbers that the gross value was made of, and
nothing remains for the net value to take up.

## Main results

* `DecimalMoney.abs_excess_div_lt_half` : the error that adding a tax leaves after the split.
* `DecimalMoney.round_net_of_added`, `DecimalMoney.round_tax_of_added` : net value and tax come
  back.
* `DecimalMoney.TaxSplit.ofGross_of_added` : nothing is left over.
* `DecimalMoney.Amount.splitTaxes_of_addTaxes` : the split of a gross value that a tax was added to.
-/

namespace DecimalMoney

open RoundingMode

/-! ### Errors -/

section Errors

variable {r : ℚ} (nonneg : 0 ≤ r) (net : Int)

include nonneg

/-- **The error of an added tax, divided by one plus the rate,** is less than one half: at the rate
zero there is no error, and at any other rate the divisor is larger than one. -/
theorem abs_excess_div_lt_half : |halfEven.excess (net * r) / (1 + r)| < 1 / 2 := by
  rcases nonneg.eq_or_lt with rfl | positive
  · simp [excess]
  · have hexcess := abs_excess_halfEven_le (net * r)
    have htotal : 0 < 1 + r := by linarith
    rw [abs_div, abs_of_pos htotal, div_lt_iff₀ htotal]
    linarith

/-- What the exact net value in the gross value is off by. -/
theorem net_of_added_sub :
    ((net + halfEven.round (net * r) : Int) : ℚ) / (1 + r) - net =
      halfEven.excess (net * r) / (1 + r) := by
  have htotal : 1 + r ≠ 0 := by linarith
  rw [excess]
  push_cast
  field_simp
  ring

/-- **The net value comes back** from the gross value. -/
theorem round_net_of_added :
    halfEven.round (((net + halfEven.round (net * r) : Int) : ℚ) / (1 + r)) = net := by
  refine round_halfEven_eq_of_abs_sub_lt_half ?_
  rw [net_of_added_sub nonneg net]
  exact abs_excess_div_lt_half nonneg net

/-- **So does the tax**, which is what the net value leaves. -/
theorem round_tax_of_added :
    halfEven.round (((net + halfEven.round (net * r) : Int) : ℚ) * r / (1 + r)) =
      halfEven.round (net * r) := by
  have htotal : 1 + r ≠ 0 := by linarith
  have hshare : ((net + halfEven.round (net * r) : Int) : ℚ) * r / (1 + r) -
      halfEven.round (net * r) =
        -(((net + halfEven.round (net * r) : Int) : ℚ) / (1 + r) - net) := by
    push_cast
    field_simp
    ring
  refine round_halfEven_eq_of_abs_sub_lt_half ?_
  rw [hshare, abs_neg, net_of_added_sub nonneg net]
  exact abs_excess_div_lt_half nonneg net

end Errors

/-! ### Numbers of a split -/

variable {gross : Int} {total rate : Decimal}

/-- One and a single rate have a sum at the scale of the rate, if it keeps to eighteen digits. -/
theorem commonSum_singleton (htotal : FitsDigits (rate.unit + rate.mantissa)) :
    Decimal.commonSum [rate] true = .ok (rate.setMantissa (rate.unit + rate.mantissa)) := by
  have hscale : Decimal.largestScale [rate] = rate.ownScale := by
    simp [Decimal.largestScale, integerScale]
  have hsum : checkWord (10 ^ rate.scale + rate.mantissa) = .ok (rate.unit + rate.mantissa) :=
    checkWord_of_fitsWord htotal.fitsWord
  rw [Decimal.commonSum, hscale]
  simp [Decimal.ownScale, bind, Except.bind, pure, Except.pure, hsum, Decimal.ofUnits, checkScale,
    rate.scale_le, checkDigits_of_fitsDigits htotal, Decimal.atScale, Decimal.setMantissa]

/-- The value of one and a rate. -/
theorem value_setMantissa_unit_add (rate : Decimal) :
    (rate.setMantissa (rate.unit + rate.mantissa)).value = 1 + rate.value := by
  have hpower := cast_ten_pow_ne_zero rate.scale
  simp only [Decimal.value, Decimal.mantissa_setMantissa, Decimal.scale_setMantissa, Decimal.unit]
  push_cast
  rw [add_div, div_self hpower]

/-- A tax on a net value is the net value times the rate. -/
theorem exact_of_taxOnNet {net tax : Int} (hnet : FitsWord net) (hrate : FitsWord rate.mantissa)
    (h : Amount.taxOnNet net rate = .ok tax) :
    tax = halfEven.round (net * rate.value) ∧ FitsWord tax := by
  obtain ⟨power, hpower, h⟩ := bind_eq_ok_iff.1 h
  obtain ⟨_, rfl⟩ := powerOfTen_eq_ok_iff.1 hpower
  rw [Int.toNat_natCast] at h
  obtain ⟨_, hround, hword⟩ :=
    exact_of_divideProduct hnet hrate (fitsWord_ten_pow rate.scale_le) h
  exact ⟨by rw [hround, Decimal.mul_value], hword⟩

/-- There is a net value if the rounded quotient fits a word. -/
theorem netInGross_eq_ok (hgross : FitsWord gross) (htotal : FitsWord total.mantissa)
    (nonzero : total.mantissa ≠ 0) (fits : FitsWord (halfEven.round (gross / total.value))) :
    Amount.netInGross gross total = .ok (halfEven.round (gross / total.value)) := by
  rw [Decimal.div_value] at fits ⊢
  rw [Amount.netInGross, divideScaled, powerOfTen_natCast total.scale_le]
  exact divideProduct_eq_ok hgross (fitsWord_ten_pow total.scale_le) htotal nonzero (by decide) fits

/-- There is a tax if the rate has the scale of the total and the rounded share fits a word. -/
theorem taxInGross_eq_ok (hgross : FitsWord gross) (htotal : FitsWord total.mantissa)
    (nonzero : total.mantissa ≠ 0) (hrate : FitsWord rate.mantissa)
    (aligned : rate.scale = total.scale)
    (fits : FitsWord (halfEven.round (gross * rate.value / total.value))) :
    Amount.taxInGross gross total rate =
      .ok (halfEven.round (gross * rate.value / total.value)) := by
  have hratio : (gross : ℚ) * rate.value / total.value =
      gross * rate.mantissa / total.mantissa := by
    rw [← Decimal.mul_div_value, ← aligned]
    rfl
  rw [hratio] at fits ⊢
  rw [Amount.taxInGross, aligned, rescale_self]
  exact divideProduct_eq_ok hgross hrate htotal nonzero (by decide) fits

/-- The sum of a net value and one tax leaves nothing of it over. -/
theorem shortfall_of_added {net tax : Int} (hnet : FitsWord net) (hsum : FitsWord (net + tax)) :
    shortfall [net + tax, net, tax] = .ok 0 := by
  simp [shortfall, wordSum, checkWord_of_fitsWord hnet, checkWord_of_fitsWord hsum, bind,
    Except.bind, pure, Except.pure]
  decide

/-- **Nothing is left over** where a net value and one rounded tax are split again. -/
theorem TaxSplit.ofGross_of_added {net : Int} (nonneg : 0 ≤ rate.mantissa)
    (htotal : FitsDigits (rate.unit + rate.mantissa)) (hnet : FitsWord net)
    (htax : FitsWord (halfEven.round (net * rate.value)))
    (hgross : FitsWord (net + halfEven.round (net * rate.value))) :
    ofGross (net + halfEven.round (net * rate.value)) [rate] =
      .ok ⟨net, [halfEven.round (net * rate.value)], 0⟩ := by
  have hunit := rate.unit_pos
  have hrate : FitsWord rate.mantissa := (htotal.of_natAbs_le (by omega)).fitsWord
  have hvalue : 0 ≤ rate.value := by
    have : (0 : ℚ) ≤ rate.mantissa := by exact_mod_cast nonneg
    exact div_nonneg this (by positivity)
  have nonzero : (rate.setMantissa (rate.unit + rate.mantissa)).mantissa ≠ 0 := by
    rw [Decimal.mantissa_setMantissa]
    omega
  have net_back := round_net_of_added hvalue net
  have tax_back := round_tax_of_added hvalue net
  rw [← value_setMantissa_unit_add] at net_back tax_back
  have hnetInGross := netInGross_eq_ok hgross htotal.fitsWord nonzero (by rwa [net_back])
  have htaxInGross := taxInGross_eq_ok hgross htotal.fitsWord nonzero hrate rfl (by rwa [tax_back])
  rw [net_back] at hnetInGross
  rw [tax_back] at htaxInGross
  simp only [ofGross, commonSum_singleton htotal, hnetInGross, List.mapM_cons, List.mapM_nil,
    htaxInGross, bind, Except.bind, pure, Except.pure, shortfall_of_added hnet hgross]

namespace Amount

variable {a b : Amount}

/-- An amount that one tax is added to. -/
theorem exists_tax_of_addTaxes (hgross : FitsWord a.gross) (hrate : FitsWord rate.mantissa)
    (h : a.addTaxes [rate] = .ok b) :
    ∃ tax, tax = halfEven.round (a.gross * rate.value) ∧ FitsWord tax ∧
      FitsDigits (a.gross + tax) ∧
      b = { a with gross := a.gross + tax, components := [a.gross, tax] } := by
  obtain ⟨_, ⟨none, _⟩ | ⟨taxes, sum, htaxes, hsum, hdigits, rfl⟩⟩ := addTaxes_cases h
  · cases none
  have exact_tax : ∀ r ∈ [rate], ∀ t, taxOnNet a.gross r = .ok t →
      t = halfEven.round (a.gross * r.value) ∧ FitsWord t := by
    intro r hr t
    obtain rfl := List.mem_singleton.1 hr
    exact exact_of_taxOnNet hgross hrate
  obtain rfl := eq_map_of_mapM htaxes fun r hr t ht => (exact_tax r hr t ht).1
  have htax := forall_mem_of_mapM htaxes fun r hr t ht => (exact_tax r hr t ht).2
  obtain rfl := sum_eq_of_wordSum hsum
  refine ⟨_, rfl, htax _ List.mem_cons_self, by simpa using hdigits, by simp⟩

/-- **A tax that has been added is split off again.** One tax at a rate that is not negative is
added to a net value of at most eighteen digits.  If one plus the rate keeps to eighteen digits at
the scale of the rate, then the split of the gross value at this rate succeeds, with the net value
and the tax that the gross value was made of. -/
theorem splitTaxes_of_addTaxes (hgross : FitsDigits a.gross) (nonneg : 0 ≤ rate.mantissa)
    (htotal : FitsDigits (rate.unit + rate.mantissa)) (h : a.addTaxes [rate] = .ok b) :
    { a with gross := b.gross, components := [] }.splitTaxes [rate] = .ok b ∧
      ∃ tax, b = { a with gross := a.gross + tax, components := [a.gross, tax] } := by
  have hunit := rate.unit_pos
  have hrate : FitsWord rate.mantissa := (htotal.of_natAbs_le (by omega)).fitsWord
  obtain ⟨tax, rfl, htax, hsum, rfl⟩ := exists_tax_of_addTaxes hgross.fitsWord hrate h
  refine ⟨?_, _, rfl⟩
  have hsplit := TaxSplit.ofGross_of_added nonneg htotal hgross.fitsWord htax hsum.fitsWord
  rw [splitTaxes_eq rfl (List.cons_ne_nil _ _), hsplit, ok_bind, TaxSplit.adjustedNet, add_zero,
    trapWord_of_fitsWord hgross.fitsWord, ok_bind, checkDigits_of_fitsDigits hgross]
  rfl

/-- Five percent of thirty are one and a half, which is rounded by the whole half that an added tax
can miss. -/
theorem splitTaxes_of_addTaxes_at_tie :
    ∃ a b : Amount, a.gross = 30 ∧ a.components = [] ∧
      a.addTaxes [⟨5, 2, by decide⟩] = .ok b ∧ b.gross = 32 ∧ b.components = [30, 2] ∧
      { a with gross := b.gross, components := [] }.splitTaxes [⟨5, 2, by decide⟩] = .ok b := by
  let euro : Currency := ⟨"EUR", 2, by decide +kernel, by decide⟩
  have added : (⟨euro, 30, []⟩ : Amount).addTaxes [⟨5, 2, by decide⟩] =
      .ok ⟨euro, 32, [30, 2]⟩ := by decide +kernel
  exact ⟨_, _, rfl, rfl, added, rfl, rfl,
    (splitTaxes_of_addTaxes (by decide) (by decide) (by decide) added).1⟩

end Amount

end DecimalMoney
