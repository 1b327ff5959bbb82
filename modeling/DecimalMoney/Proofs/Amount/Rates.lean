import DecimalMoney.Amount.Tax
import DecimalMoney.Proofs.Decimal.Bounded
import DecimalMoney.Proofs.Sums
import DecimalMoney.Proofs.Wide.ProductQuotient

/-!
# Taxes at rates that are not negative

If no rate is negative then all taxes have the sign of the amount that they are computed from.
Nothing cancels in a sum of such taxes: each of them is at most as large as the gross value, be they
added to a net value or split off a gross value.

## Main results

* `DecimalMoney.exists_aligned_of_commonSum` : a sum of decimals at their largest scale, term by
  term.
* `DecimalMoney.Amount.natAbs_le_of_addTaxes`, `DecimalMoney.Amount.natAbs_le_of_splitTaxes` : no
  tax exceeds the gross value.
-/

namespace DecimalMoney

/-! ### Sums of rates -/

/-- A number that is not negative is not so at another scale either. -/
theorem rescale_nonneg {m n : Int} {source target : Nat} {mode : RoundingMode} (hm : 0 ≤ m)
    (h : rescale m source target mode = .ok n) : 0 ≤ n := by
  unfold rescale at h
  split_ifs at h
  · cases h
    exact hm
  · obtain ⟨power, hpower, h⟩ := bind_eq_ok_iff.1 h
    obtain ⟨_, rfl⟩ := powerOfTen_eq_ok_iff.1 hpower
    obtain ⟨_, rfl⟩ := checkDigits_eq_ok_iff.1 h
    exact Int.mul_nonneg hm (ten_pow_pos _).le
  · obtain ⟨power, hpower, h⟩ := bind_eq_ok_iff.1 h
    obtain ⟨_, rfl⟩ := powerOfTen_eq_ok_iff.1 hpower
    exact divideRounded_nonneg hm (ten_pow_pos _) h

/-- A sum of decimals at their largest scale is the sum of their mantissas there, and of the unit if
one is added. -/
theorem exists_aligned_of_commonSum {xs : List Decimal} {withOne : Bool} {z : Decimal}
    (h : Decimal.commonSum xs withOne = .ok z) : ∃ aligned,
      xs.mapM (fun x => rescale x.mantissa x.scale z.scale .unnecessary) = .ok aligned ∧
      z.mantissa = (if withOne then z.unit else 0) + aligned.sum ∧ FitsDigits z.mantissa := by
  obtain ⟨sum, hsum, h⟩ := bind_eq_ok_iff.1 h
  obtain ⟨aligned, haligned, rfl⟩ := exists_mapM_of_foldlM_checkWord hsum
  obtain ⟨hdigits, hmantissa, hscale⟩ := Decimal.fitsDigits_of_ofUnits h
  refine ⟨aligned, ?_, ?_, hdigits⟩
  · rw [hscale]
    exact haligned
  · rw [hmantissa, Decimal.unit, hscale]

namespace Amount

variable {a b : Amount} {rates : List Decimal}

/-- A tax on a net value has the sign of the net value, or is zero. -/
theorem taxOnNet_sign {net tax : Int} {rate : Decimal} (hnet : FitsWord net)
    (hrate : rate.Bounded) (nonneg : 0 ≤ rate.mantissa) (h : taxOnNet net rate = .ok tax) :
    (0 ≤ net → 0 ≤ tax) ∧ (net ≤ 0 → tax ≤ 0) := by
  obtain ⟨power, hpower, h⟩ := bind_eq_ok_iff.1 h
  obtain ⟨_, rfl⟩ := powerOfTen_eq_ok_iff.1 hpower
  rw [Int.toNat_natCast] at h
  have positive := ten_pow_pos rate.scale
  obtain rfl := eq_round_of_divideProduct hnet hrate.fitsWord (fitsWord_ten_pow rate.scale_le)
    positive.ne' h
  have hrate : (0 : ℚ) ≤ rate.mantissa := by exact_mod_cast nonneg
  have hpower : (0 : ℚ) ≤ ((10 ^ rate.scale : Int) : ℚ) := by exact_mod_cast positive.le
  constructor
  · intro hnet
    have hnet : (0 : ℚ) ≤ net := by exact_mod_cast hnet
    refine RoundingMode.le_round _ ?_
    rw [Int.cast_zero]
    exact div_nonneg (mul_nonneg hnet hrate) hpower
  · intro hnet
    have hnet : (net : ℚ) ≤ 0 := by exact_mod_cast hnet
    refine RoundingMode.round_le _ ?_
    rw [Int.cast_zero]
    exact div_nonpos_of_nonpos_of_nonneg (mul_nonpos_of_nonpos_of_nonneg hnet hrate) hpower

/-- A tax that is contained in a gross value is no larger than it, since the rate is no larger than
the sum that it belongs to. -/
theorem natAbs_le_of_taxInGross {gross tax aligned : Int} {total rate : Decimal}
    (hgross : FitsWord gross) (htotal : FitsDigits total.mantissa)
    (positive : 0 < total.mantissa) (nonneg : 0 ≤ aligned) (hle : aligned ≤ total.mantissa)
    (haligned : rescale rate.mantissa rate.scale total.scale .unnecessary = .ok aligned)
    (h : taxInGross gross total rate = .ok tax) : tax.natAbs ≤ gross.natAbs := by
  rw [taxInGross, haligned] at h
  have hword : FitsWord aligned := (htotal.of_natAbs_le (by omega)).fitsWord
  obtain rfl := eq_round_of_divideProduct hgross hword htotal.fitsWord positive.ne' h
  have hbound : |(gross : ℚ) * aligned / total.mantissa| ≤ (|gross| : Int) := by
    have haligned : (0 : ℚ) ≤ aligned := by exact_mod_cast nonneg
    have htotal : (0 : ℚ) < total.mantissa := by exact_mod_cast positive
    rw [abs_div, abs_mul, abs_of_nonneg haligned, abs_of_pos htotal, div_le_iff₀ htotal,
      Int.cast_abs]
    exact mul_le_mul_of_nonneg_left (by exact_mod_cast hle) (abs_nonneg _)
  have hrounded := RoundingMode.abs_round_le .halfEven hbound
  rw [Int.abs_eq_natAbs, Int.abs_eq_natAbs] at hrounded
  exact Int.ofNat_le.1 hrounded

/-- What has no breakdown has no taxes. -/
theorem taxes_eq_nil_of_bare (bare : a.components = []) : a.taxes = [] := by
  rw [taxes, bare, List.tail_nil]

/-- **No tax that is added is larger than the gross value**, if all rates are at least zero. -/
theorem natAbs_le_of_addTaxes (hgross : FitsDigits a.gross) (hrates : ∀ r ∈ rates, r.Bounded)
    (nonneg : ∀ r ∈ rates, 0 ≤ r.mantissa) (h : a.addTaxes rates = .ok b) :
    ∀ t ∈ b.taxes, t.natAbs ≤ b.gross.natAbs := by
  obtain ⟨bare, ⟨_, rfl⟩ | ⟨taxes, gross, htaxes, hsum, _, rfl⟩⟩ := addTaxes_cases h
  · rw [taxes_eq_nil_of_bare bare]
    exact List.forall_mem_nil _
  · have hsign : ∀ r ∈ rates, ∀ t, taxOnNet a.gross r = .ok t →
        (0 ≤ a.gross → 0 ≤ t) ∧ (a.gross ≤ 0 → t ≤ 0) :=
      fun r hr t => taxOnNet_sign hgross.fitsWord (hrates r hr) (nonneg r hr)
    have same : (∀ x ∈ a.gross :: taxes, 0 ≤ x) ∨ ∀ x ∈ a.gross :: taxes, x ≤ 0 := by
      rcases le_total 0 a.gross with above | below
      · exact .inl (List.forall_mem_cons.2
          ⟨above, forall_mem_of_mapM htaxes fun r hr t ht => (hsign r hr t ht).1 above⟩)
      · exact .inr (List.forall_mem_cons.2
          ⟨below, forall_mem_of_mapM htaxes fun r hr t ht => (hsign r hr t ht).2 below⟩)
    intro t ht
    rw [sum_eq_of_wordSum hsum]
    exact natAbs_le_natAbs_sum same t (List.mem_cons_of_mem _ ht)

/-- **No tax that is split off is larger than the gross value**, if all rates are at least zero. -/
theorem natAbs_le_of_splitTaxes (hgross : FitsDigits a.gross)
    (nonneg : ∀ r ∈ rates, 0 ≤ r.mantissa) (h : a.splitTaxes rates = .ok b) :
    ∀ t ∈ b.taxes, t.natAbs ≤ b.gross.natAbs := by
  obtain ⟨bare, ⟨_, rfl⟩ | ⟨split, hsplit, _, rfl⟩⟩ := splitTaxes_cases h
  · rw [taxes_eq_nil_of_bare bare]
    exact List.forall_mem_nil _
  · obtain ⟨total, htotal, _, htaxes, _⟩ := TaxSplit.exists_total_of_ofGross hsplit
    obtain ⟨aligned, haligned, hmantissa, hdigits⟩ := exists_aligned_of_commonSum htotal
    rw [if_pos rfl] at hmantissa
    have hnonneg : ∀ v ∈ aligned, 0 ≤ v :=
      forall_mem_of_mapM haligned fun r hr v hv => rescale_nonneg (nonneg r hr) hv
    have hunit := total.unit_pos
    refine forall_mem_of_mapM htaxes fun r hr t ht => ?_
    obtain ⟨v, hv, hrescale⟩ := exists_mem_of_mapM haligned hr
    have hle := List.single_le_sum hnonneg v hv
    have hv := hnonneg v hv
    exact natAbs_le_of_taxInGross hgross.fitsWord hdigits (by omega) hv (by omega) hrescale ht

end Amount

end DecimalMoney
