import DecimalMoney.Amount.Basic
import DecimalMoney.Decimal.Arithmetic

/-!
# Taxes

An amount without a breakdown can be read as a net value, to which taxes are added, or as a gross
value, which is split into net value and taxes.  Rates are decimals; every tax is rounded on its
own, with ties to even.

## Main definitions

* `DecimalMoney.Amount.addTaxes` : taxes added to a net value.
* `DecimalMoney.Amount.splitTaxes` : a gross value split into net value and taxes.
* `DecimalMoney.TaxSplit` : the numbers of such a split before the last step.

## Main results

* `DecimalMoney.Amount.addTaxes_cases`, `DecimalMoney.Amount.splitTaxes_cases` : what an amount with
  taxes is.
* `DecimalMoney.Amount.splitTaxes_eq` : splitting is a split with its last step.
-/

namespace DecimalMoney.Amount

/-- The tax on a net value at a rate. -/
def taxOnNet (net : Int) (rate : Decimal) : Except Failure Int :=
  multiplyScaled net rate.mantissa rate.scale .halfEven

/-- The tax contained in a gross value at a rate, where `total` is one plus the sum of all rates. -/
def taxInGross (gross : Int) (total rate : Decimal) : Except Failure Int := do
  let aligned ← rescale rate.mantissa rate.scale total.scale .unnecessary
  divideProduct gross aligned total.mantissa .halfEven

/-- The net value contained in a gross value, where `total` is one plus the sum of all rates. -/
def netInGross (gross : Int) (total : Decimal) : Except Failure Int :=
  divideScaled gross total.scale total.mantissa .halfEven

/-- The amount as a net value with one tax for each rate.  The gross value is their sum. -/
def addTaxes (a : Amount) (rates : List Decimal) : Except Failure Amount :=
  if a.hasBreakdown then .error .scaleMismatch
  else if rates = [] then .ok a
  else do
    let components := a.gross :: (← rates.mapM (taxOnNet a.gross))
    let gross ← checkDigits (← wordSum components)
    return { currency := a.currency, gross, components }

/-- The amount as a gross value with one tax for each rate.  What the rounding of net value and
taxes leaves over goes to the net value, by the one sum here that is not checked; only the digits of
its result are. -/
def splitTaxes (a : Amount) (rates : List Decimal) : Except Failure Amount :=
  if a.hasBreakdown then .error .scaleMismatch
  else if rates = [] then .ok a
  else do
    let total ← Decimal.commonSum rates true
    let net ← netInGross a.gross total
    let taxes ← rates.mapM (taxInGross a.gross total)
    let residual ← shortfall (a.gross :: net :: taxes)
    return { a with components := (← checkDigits (← trapWord (net + residual))) :: taxes }

end DecimalMoney.Amount

namespace DecimalMoney

/-! ### The numbers of a split -/

/-- Net value and taxes in a gross value, each of them rounded on its own, and what they leave
over. -/
structure TaxSplit where
  /-- The net value. -/
  net : Int
  /-- The taxes, in the order of the rates. -/
  taxes : List Int
  /-- The gross value less net value and taxes. -/
  residual : Int
  deriving DecidableEq, Repr

namespace TaxSplit

/-- The split of a gross value at the given rates. -/
def ofGross (gross : Int) (rates : List Decimal) : Except Failure TaxSplit := do
  let total ← Decimal.commonSum rates true
  let net ← Amount.netInGross gross total
  let taxes ← rates.mapM (Amount.taxInGross gross total)
  let residual ← shortfall (gross :: net :: taxes)
  return { net, taxes, residual }

/-- The net value that takes up what is left over. -/
def adjustedNet (s : TaxSplit) : Int := s.net + s.residual

/-- The steps of a split. -/
theorem exists_total_of_ofGross {gross : Int} {rates : List Decimal} {s : TaxSplit}
    (h : ofGross gross rates = .ok s) :
    ∃ total, Decimal.commonSum rates true = .ok total ∧
      Amount.netInGross gross total = .ok s.net ∧
      rates.mapM (Amount.taxInGross gross total) = .ok s.taxes ∧
      shortfall (gross :: s.net :: s.taxes) = .ok s.residual := by
  obtain ⟨total, htotal, h⟩ := bind_eq_ok_iff.1 h
  obtain ⟨net, hnet, h⟩ := bind_eq_ok_iff.1 h
  obtain ⟨taxes, htaxes, h⟩ := bind_eq_ok_iff.1 h
  obtain ⟨residual, hresidual, h⟩ := bind_eq_ok_iff.1 h
  cases h
  exact ⟨total, htotal, hnet, htaxes, hresidual⟩

end TaxSplit

/-! ### Amounts with taxes -/

namespace Amount

variable {a b : Amount} {rates : List Decimal}

/-- An amount without a breakdown stays without rates, and else it is the net value in front of the
taxes. -/
theorem addTaxes_cases (h : a.addTaxes rates = .ok b) :
    a.components = [] ∧ ((rates = [] ∧ b = a) ∨
      ∃ taxes gross, rates.mapM (taxOnNet a.gross) = .ok taxes ∧
        wordSum (a.gross :: taxes) = .ok gross ∧ FitsDigits gross ∧
        b = { currency := a.currency, gross, components := a.gross :: taxes }) := by
  by_cases breakdown : a.hasBreakdown = true
  · rw [addTaxes, if_pos breakdown] at h
    cases h
  · refine ⟨by simpa [hasBreakdown] using breakdown, ?_⟩
    rw [addTaxes, if_neg breakdown] at h
    by_cases none : rates = []
    · rw [if_pos none] at h
      cases h
      exact .inl ⟨none, rfl⟩
    · rw [if_neg none] at h
      obtain ⟨taxes, htaxes, h⟩ := bind_eq_ok_iff.1 h
      obtain ⟨sum, hsum, h⟩ := bind_eq_ok_iff.1 h
      obtain ⟨gross, hgross, h⟩ := bind_eq_ok_iff.1 h
      cases h
      obtain ⟨hdigits, rfl⟩ := checkDigits_eq_ok_iff.1 hgross
      exact .inr ⟨taxes, gross, htaxes, hsum, hdigits, rfl⟩

/-- **Splitting is a split with its last step**, which gives the residual to the net value. -/
theorem splitTaxes_eq (bare : a.hasBreakdown = false) (nonempty : rates ≠ []) :
    a.splitTaxes rates = (do
      let split ← TaxSplit.ofGross a.gross rates
      let net ← checkDigits (← trapWord split.adjustedNet)
      return { a with components := net :: split.taxes }) := by
  simp only [splitTaxes, bare, Bool.false_eq_true, if_false, if_neg nonempty, TaxSplit.ofGross,
    bind_assoc, pure_bind, TaxSplit.adjustedNet]

/-- An amount without a breakdown stays without rates, and else it has the numbers of a split. -/
theorem splitTaxes_cases (h : a.splitTaxes rates = .ok b) :
    a.components = [] ∧ ((rates = [] ∧ b = a) ∨
      ∃ split, TaxSplit.ofGross a.gross rates = .ok split ∧ FitsDigits split.adjustedNet ∧
        b = { a with components := split.adjustedNet :: split.taxes }) := by
  by_cases breakdown : a.hasBreakdown = true
  · rw [splitTaxes, if_pos breakdown] at h
    cases h
  · refine ⟨by simpa [hasBreakdown] using breakdown, ?_⟩
    by_cases none : rates = []
    · rw [splitTaxes, if_neg breakdown, if_pos none] at h
      cases h
      exact .inl ⟨none, rfl⟩
    · rw [splitTaxes_eq (Bool.eq_false_iff.2 breakdown) none] at h
      obtain ⟨split, hsplit, h⟩ := bind_eq_ok_iff.1 h
      obtain ⟨adjusted, hadjusted, h⟩ := bind_eq_ok_iff.1 h
      obtain ⟨net, hnet, h⟩ := bind_eq_ok_iff.1 h
      cases h
      obtain ⟨_, rfl⟩ := trapWord_eq_ok_iff.1 hadjusted
      obtain ⟨hdigits, rfl⟩ := checkDigits_eq_ok_iff.1 hnet
      exact .inr ⟨split, hsplit, hdigits, rfl⟩

end Amount

end DecimalMoney
