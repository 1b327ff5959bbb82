import DecimalMoney.Proofs.Amount.Rates
import DecimalMoney.Proofs.Amount.Reachable

/-!
# Digits of amounts

Gross values and net values are checked whenever they are computed, and so are the components of
sums and multiples.  Taxes are not: where they are added to a net value or split off a gross value,
only their sum with the other numbers is, and taxes of opposite sign may hide each other in it.  So
all numbers of an amount have at most eighteen digits as long as the taxes have that are computed on
the way.

## Main definitions

* `DecimalMoney.Amount.Within` : gross and net value have at most eighteen digits, and the taxes
  meet a condition.
* `DecimalMoney.Amount.TaxesFit` : the condition that no rate is negative or the taxes are small.

## Main results

* `DecimalMoney.Amount.ReachableWhen.within` : what is true of the taxes that are computed is true
  of all taxes, and gross and net values have at most eighteen digits anyway.
* `DecimalMoney.Amount.ReachableWhen.within_fitsWord`,
  `DecimalMoney.Amount.ReachableWhen.negate_eq_overrun_iff` : all numbers are words, and a change of
  sign overruns only where the least word is among them.
* `DecimalMoney.Amount.ReachableWhen.within_fitsDigits` : where the taxes fit, all numbers have at
  most eighteen digits.
* `DecimalMoney.Amount.reachable_digits_fit` : the digits of reachable amounts, with and without
  conditions on their taxes.
-/

namespace DecimalMoney.Amount

/-- Gross value and net value have at most eighteen digits, and every tax meets a condition. -/
structure Within (tax : Int → Prop) (a : Amount) : Prop where
  gross : FitsDigits a.gross
  net : ∀ n ∈ a.components.head?, FitsDigits n
  taxes : ∀ t ∈ a.taxes, tax t

variable {tax : Int → Prop} {a b c : Amount}

/-! ### Numbers that have been checked -/

/-- What eighteen digits imply is true of all components if it is of the taxes. -/
theorem Within.forall_components (wide : ∀ n, FitsDigits n → tax n) (h : a.Within tax) :
    ∀ n ∈ a.components, tax n := by
  obtain ⟨-, net, taxes⟩ := h
  unfold Amount.taxes at taxes
  cases hcomponents : a.components with
  | nil => exact List.forall_mem_nil _
  | cons n ts =>
    rw [hcomponents] at net taxes
    exact List.forall_mem_cons.2 ⟨wide n (net n rfl), taxes⟩

/-- All numbers have at most eighteen digits if the taxes have, and the other way round. -/
theorem within_fitsDigits_iff :
    a.Within FitsDigits ↔ FitsDigits a.gross ∧ ∀ n ∈ a.components, FitsDigits n := by
  constructor
  · exact fun h => ⟨h.gross, h.forall_components fun _ => id⟩
  · rintro ⟨gross, components⟩
    exact ⟨gross, fun n hn => components n (List.mem_of_mem_head? hn),
      fun t ht => components t (List.mem_of_mem_tail ht)⟩

theorem Within.mono {p q : Int → Prop} (h : a.Within p) (hpq : ∀ n, p n → q n) : a.Within q :=
  ⟨h.gross, h.net, fun t ht => hpq t (h.taxes t ht)⟩

theorem within_of_ofMantissas {currency : Currency} {gross : Int} {components : List Int}
    (h : ofMantissas currency gross components = .ok a) : a.Within FitsDigits := by
  obtain ⟨_, hgross, h⟩ := bind_eq_ok_iff.1 h
  obtain ⟨_, hcomponents, h⟩ := bind_eq_ok_iff.1 h
  obtain ⟨_, _, h⟩ := bind_eq_ok_iff.1 h
  cases h
  obtain ⟨hdigits, rfl⟩ := checkDigits_eq_ok_iff.1 hgross
  exact within_fitsDigits_iff.2 ⟨hdigits, forall_fitsDigits_of_mapM hcomponents⟩

/-- A currency has few digits, so the exception among decimals does not get there. -/
theorem within_of_ofDecimal {value : Decimal} {currency : Currency} (hvalue : value.Bounded)
    (h : ofDecimal value currency = .ok a) : a.Within FitsDigits := by
  obtain ⟨gross, hgross, h⟩ := bind_eq_ok_iff.1 h
  cases h
  refine within_fitsDigits_iff.2 ⟨?_, List.forall_mem_nil _⟩
  rcases Decimal.fitsDigits_of_rescale hvalue hgross with hdigits | ⟨hscale, rfl⟩
  · exact hdigits
  · have hdecimals := currency.decimals_le
    unfold maxCurrencyDecimals at hdecimals
    exact hvalue.fitsDigits (hscale ▸ hdecimals.trans_lt (by decide))

theorem within_cleared (a : Amount) : a.cleared.Within FitsDigits := by
  refine within_fitsDigits_iff.2 ⟨fitsDigits_zero, fun n hn => ?_⟩
  obtain ⟨_, _, rfl⟩ := List.mem_map.1 hn
  exact fitsDigits_zero

theorem within_of_zipWith {op : Int → Int → Int} (h : Amount.zipWith op a b = .ok c) :
    c.Within FitsDigits := by
  unfold Amount.zipWith at h
  split_ifs at h
  obtain ⟨_, hgross, h⟩ := bind_eq_ok_iff.1 h
  obtain ⟨_, hcomponents, h⟩ := bind_eq_ok_iff.1 h
  cases h
  obtain ⟨hdigits, rfl⟩ := checkDigits_eq_ok_iff.1 hgross
  exact within_fitsDigits_iff.2 ⟨hdigits, forall_fitsDigits_of_mapM hcomponents⟩

theorem within_of_scaleTo {currency : Currency} {numerator denominator : Int}
    {mode : RoundingMode} (h : a.scaleTo currency numerator denominator mode = .ok b) :
    b.Within FitsDigits := by
  rw [within_fitsDigits_iff]
  obtain ⟨_, ⟨_, bare, hdigits, _⟩ | ⟨_, happortion⟩⟩ := scaleTo_cases h
  · rw [bare]
    exact ⟨hdigits, List.forall_mem_nil _⟩
  · exact List.forall_mem_cons.1 (fitsDigits_of_apportion happortion)

/-! ### Numbers that are kept -/

theorem Within.negate (symmetric : ∀ n, tax n → FitsWord (-n) → tax (-n)) (ha : a.Within tax)
    (h : a.negate = .ok b) : b.Within tax := by
  obtain ⟨⟨_, words⟩, rfl⟩ := negate_eq_ok_iff.1 h
  refine ⟨ha.gross.neg, ?_, ?_⟩
  · intro n hn
    simp only [Amount.opposite, List.head?_map, Option.mem_map] at hn
    obtain ⟨m, hm, rfl⟩ := hn
    exact (ha.net m hm).neg
  · intro t ht
    simp only [Amount.taxes, Amount.opposite, ← List.map_tail, List.mem_map] at ht
    obtain ⟨s, hs, rfl⟩ := ht
    exact symmetric s (ha.taxes s hs) (words s (List.mem_of_mem_tail hs))

section Kept

variable (wide : ∀ n, FitsDigits n → tax n) (ha : a.Within tax)

include wide ha

theorem Within.multiplyInt {factor : Int} (h : a.multiplyInt factor = .ok b) : b.Within tax := by
  unfold Amount.multiplyInt at h
  split_ifs at h
  · cases h
    exact ha
  · obtain ⟨_, hcomponents, h⟩ := bind_eq_ok_iff.1 h
    obtain ⟨_, hgross, h⟩ := bind_eq_ok_iff.1 h
    cases h
    obtain ⟨hdigits, rfl⟩ := checkDigits_eq_ok_iff.1 hgross
    exact (within_fitsDigits_iff.2 ⟨hdigits, forall_fitsDigits_of_mapM hcomponents⟩).mono wide

theorem Within.multiplyRatio {numerator denominator : Int} {mode : RoundingMode}
    (h : a.multiplyRatio numerator denominator mode = .ok b) : b.Within tax := by
  unfold Amount.multiplyRatio at h
  split_ifs at h
  · cases h
    exact ha
  · exact (within_of_scaleTo h).mono wide

theorem Within.multiplyDecimal (symmetric : ∀ n, tax n → FitsWord (-n) → tax (-n))
    {factor : Decimal} (h : a.multiplyDecimal factor = .ok b) : b.Within tax := by
  unfold Amount.multiplyDecimal at h
  split_ifs at h
  · cases h
    exact ha
  · exact ha.negate symmetric h
  · cases h
    exact (within_cleared a).mono wide
  · exact ha.multiplyInt wide h
  · exact (within_of_scaleTo h).mono wide

theorem Within.convert {rate : Decimal} {currency : Currency}
    (h : a.convert rate currency = .ok b) : b.Within tax := by
  unfold Amount.convert at h
  dsimp only at h
  split_ifs at h
  · obtain ⟨_, _, h⟩ := bind_eq_ok_iff.1 h
    exact (within_of_scaleTo h).mono wide
  · obtain ⟨_, _, h⟩ := bind_eq_ok_iff.1 h
    obtain ⟨_, _, h⟩ := bind_eq_ok_iff.1 h
    obtain ⟨product, hproduct, h⟩ := bind_eq_ok_iff.1 h
    have hwithin := ha.multiplyInt wide hproduct
    cases h
    exact ⟨hwithin.gross, hwithin.net, hwithin.taxes⟩

end Kept

/-! ### Taxes -/

/-- Gross and net value are checked or stay, but the taxes are as they come. -/
theorem Within.taxed {rates : List Decimal} (ha : a.Within tax) (h : Taxed rates a b)
    (htaxes : ∀ t ∈ b.taxes, tax t) : b.Within tax := by
  rcases h with h | h
  · obtain ⟨_, ⟨_, rfl⟩ | ⟨_, _, _, _, hgross, rfl⟩⟩ := addTaxes_cases h
    · exact ha
    · refine ⟨hgross, ?_, htaxes⟩
      rintro n ⟨⟩
      exact ha.gross
  · obtain ⟨_, ⟨_, rfl⟩ | ⟨_, _, hnet, rfl⟩⟩ := splitTaxes_cases h
    · exact ha
    · refine ⟨ha.gross, ?_, htaxes⟩
      rintro n ⟨⟩
      exact hnet

/-- Taxes are words, since products and quotients are. -/
theorem fitsWord_of_taxed {rates : List Decimal} (h : Taxed rates a b) :
    ∀ t ∈ b.taxes, FitsWord t := by
  rcases h with h | h
  · obtain ⟨bare, ⟨_, rfl⟩ | ⟨_, _, htaxes, _, _, rfl⟩⟩ := addTaxes_cases h
    · rw [taxes_eq_nil_of_bare bare]
      exact List.forall_mem_nil _
    · refine forall_mem_of_mapM htaxes fun r _ t ht => ?_
      obtain ⟨_, _, ht⟩ := bind_eq_ok_iff.1 ht
      exact fitsWord_of_divideProduct ht
  · obtain ⟨bare, ⟨_, rfl⟩ | ⟨split, hsplit, _, rfl⟩⟩ := splitTaxes_cases h
    · rw [taxes_eq_nil_of_bare bare]
      exact List.forall_mem_nil _
    · obtain ⟨_, _, _, htaxes, _⟩ := TaxSplit.exists_total_of_ofGross hsplit
      refine forall_mem_of_mapM htaxes fun r _ t ht => ?_
      obtain ⟨_, _, ht⟩ := bind_eq_ok_iff.1 ht
      exact fitsWord_of_divideProduct ht

/-- Taxes at rates that are not negative are no larger than the gross value, which is checked. -/
theorem fitsDigits_of_taxed {rates : List Decimal} (ha : a.Within tax)
    (hrates : ∀ r ∈ rates, r.Bounded) (nonneg : ∀ r ∈ rates, 0 ≤ r.mantissa)
    (h : Taxed rates a b) : ∀ t ∈ b.taxes, FitsDigits t := by
  have hall : a.Within fun _ => True := ha.mono fun _ _ => trivial
  have hgross : FitsDigits b.gross := (hall.taxed h fun _ _ => trivial).gross
  intro t ht
  refine hgross.of_natAbs_le ?_
  rcases h with h | h
  · exact natAbs_le_of_addTaxes ha.gross hrates nonneg h t ht
  · exact natAbs_le_of_splitTaxes ha.gross nonneg h t ht

/-! ### Reachable amounts -/

/-- No rate is negative, or no tax has more than eighteen digits. -/
def TaxesFit (rates : List Decimal) (b : Amount) : Prop :=
  (∀ r ∈ rates, 0 ≤ r.mantissa) ∨ ∀ t ∈ b.taxes, FitsDigits t

namespace ReachableWhen

variable {permitted : List Decimal → Amount → Prop}

/-- **What is true of the taxes that are computed is true of all taxes** of reachable amounts, and
gross and net values have at most eighteen digits anyway. -/
theorem within (wide : ∀ n, FitsDigits n → tax n)
    (symmetric : ∀ n, tax n → FitsWord (-n) → tax (-n))
    (taxes : ∀ {a b : Amount} {rates : List Decimal}, a.Within tax → (∀ r ∈ rates, r.Bounded) →
      Taxed rates a b → permitted rates b → ∀ t ∈ b.taxes, tax t)
    (h : ReachableWhen Decimal.Bounded permitted a) : a.Within tax := by
  induction h with
  | ofMantissas h => exact (within_of_ofMantissas h).mono wide
  | ofDecimal hvalue h => exact (within_of_ofDecimal hvalue h).mono wide
  | ofJson h =>
      obtain ⟨_, _, _, h⟩ := exists_ofMantissas_of_ofJson h
      exact (within_of_ofMantissas h).mono wide
  | cleared => exact (within_cleared _).mono wide
  | negate _ h ih => exact ih.negate symmetric h
  | add _ _ h _ _ => exact (within_of_zipWith h).mono wide
  | subtract _ _ h _ _ => exact (within_of_zipWith h).mono wide
  | multiplyInt _ h ih => exact ih.multiplyInt wide h
  | multiplyRatio _ h ih => exact ih.multiplyRatio wide h
  | multiplyDecimal _ h ih => exact ih.multiplyDecimal wide symmetric h
  | convert _ h ih => exact ih.convert wide h
  | taxed _ hrates h hpermitted ih => exact ih.taxed h (taxes ih hrates h hpermitted)

/-- All numbers of a reachable amount are words. -/
theorem within_fitsWord (h : ReachableWhen Decimal.Bounded permitted a) : a.Within FitsWord :=
  h.within (fun _ => FitsDigits.fitsWord) (fun _ _ word => word)
    fun _ _ htaxed _ => fitsWord_of_taxed htaxed

/-- **A change of sign overruns only at the least word.** -/
theorem negate_eq_overrun_iff (h : ReachableWhen Decimal.Bounded permitted a) :
    a.negate = .error .overrun ↔ -0x8000000000000000 ∈ a.components := by
  have hwords := h.within_fitsWord
  rw [negate_eq]
  constructor
  · intro overrun
    by_contra least
    have opposites : ∀ c ∈ a.components, FitsWord (-c) := by
      intro c hc
      have word := hwords.forall_components (fun _ => FitsDigits.fitsWord) c hc
      have differs : c ≠ -0x8000000000000000 := ne_of_mem_of_not_mem hc least
      unfold FitsWord at *
      omega
    rw [if_pos ⟨hwords.gross.neg.fitsWord, opposites⟩] at overrun
    cases overrun
  · exact fun least => if_neg fun opposites => absurd (opposites.2 _ least) (by decide)

/-- Where taxes keep to eighteen digits, all numbers do. -/
theorem within_fitsDigits (h : ReachableWhen Decimal.Bounded TaxesFit a) : a.Within FitsDigits :=
  h.within (fun _ => id) (fun _ digits _ => digits.neg) fun ha hrates htaxed hfit =>
    hfit.elim (fun nonneg => fitsDigits_of_taxed ha hrates nonneg htaxed) id

end ReachableWhen

/-- **Gross and net values of reachable amounts have at most eighteen digits**, whatever the rates
of taxes are.  All components are words, and a change of sign overruns only where the least word is
among them.  Where no step has both a negative rate and a tax of more digits, all components have
at most eighteen digits too, so that every sign can be changed. -/
theorem reachable_digits_fit (a : Amount) :
    (ReachableWhen Decimal.Bounded (fun _ _ => True) a →
      FitsDigits a.gross ∧ (∀ n ∈ a.components.head?, FitsDigits n) ∧
      (∀ n ∈ a.components, FitsWord n) ∧
      (a.negate = .error .overrun ↔ -0x8000000000000000 ∈ a.components)) ∧
    (ReachableWhen Decimal.Bounded TaxesFit a →
      (∀ n ∈ a.gross :: a.components, FitsDigits n ∧ FitsWord (-n)) ∧
      a.negate = .ok a.opposite) := by
  constructor
  · intro h
    have hwords := h.within_fitsWord
    exact ⟨hwords.gross, hwords.net, hwords.forall_components fun _ => FitsDigits.fitsWord,
      h.negate_eq_overrun_iff⟩
  · intro h
    obtain ⟨hgross, hcomponents⟩ := within_fitsDigits_iff.1 h.within_fitsDigits
    have hdigits := List.forall_mem_cons.2 ⟨hgross, hcomponents⟩
    exact ⟨fun n hn => ⟨hdigits n hn, (hdigits n hn).neg.fitsWord⟩,
      negate_of_fitsDigits hgross hcomponents⟩

/-- An invoice with one tax can be refunded. -/
theorem exists_reachable_refund :
    ∃ a : Amount, a.components = [-10000, -1900] ∧ ReachableWhen Decimal.Bounded TaxesFit a := by
  let euro : Currency := ⟨"EUR", 2, by decide +kernel, by decide⟩
  let rate : Decimal := ⟨19, 2, by decide⟩
  have net : ofMantissas euro 10000 [] = .ok ⟨euro, 10000, []⟩ := by decide +kernel
  have invoice : Taxed [rate] ⟨euro, 10000, []⟩ ⟨euro, 11900, [10000, 1900]⟩ :=
    .inl (by decide +kernel)
  have refund : (⟨euro, 11900, [10000, 1900]⟩ : Amount).negate =
      .ok ⟨euro, -11900, [-10000, -1900]⟩ := by decide +kernel
  have bounded : ∀ r ∈ [rate], r.Bounded := List.forall_mem_singleton.2 (.inl (by decide))
  have nonneg : ∀ r ∈ [rate], 0 ≤ r.mantissa := List.forall_mem_singleton.2 (by decide)
  have start : ReachableWhen Decimal.Bounded TaxesFit ⟨euro, 10000, []⟩ := .ofMantissas net
  exact ⟨_, rfl, (start.taxed bounded invoice (.inl nonneg)).negate refund⟩

/-- The refund of an invoice with one tax. -/
theorem reachable_digits_fit_of_refund :
    ∃ a : Amount, a.components = [-10000, -1900] ∧
      ReachableWhen Decimal.Bounded (fun _ _ => True) a ∧
      ReachableWhen Decimal.Bounded TaxesFit a ∧ FitsDigits a.gross ∧
      (∀ n ∈ a.gross :: a.components, FitsDigits n ∧ FitsWord (-n)) ∧
      a.negate = .ok a.opposite := by
  obtain ⟨a, hcomponents, refund⟩ := exists_reachable_refund
  have always := refund.mono (fun _ => id) fun _ _ _ => trivial
  obtain ⟨unconditional, small⟩ := reachable_digits_fit a
  obtain ⟨hdigits, opposite⟩ := small refund
  exact ⟨a, hcomponents, always, refund, (unconditional always).1, hdigits, opposite⟩

/-- A net value with taxes at rates of at most eighteen digits. -/
theorem reachable_of_addTaxes {currency : Currency} {net : Int} {rates : List Decimal}
    (hnet : ofMantissas currency net [] = .ok a) (hrates : ∀ r ∈ rates, FitsDigits r.mantissa)
    (h : a.addTaxes rates = .ok b) : ReachableWhen Decimal.Bounded (fun _ _ => True) b :=
  (ReachableWhen.ofMantissas hnet).taxed (fun r hr => .inl (hrates r hr)) (.inl h) trivial

/-- Taxes of nineteen digits each may cancel each other, so that the gross value has fewer. -/
theorem exists_reachable_of_cancelling_taxes :
    ∃ a : Amount, a.gross = 999999999999999999 ∧
      a.components = [999999999999999999, -8999999999999999991, 8999999999999999991] ∧
      ReachableWhen Decimal.Bounded (fun _ _ => True) a := by
  let euro : Currency := ⟨"EUR", 2, by decide +kernel, by decide⟩
  let rates : List Decimal := [⟨-9, 0, by decide⟩, ⟨9, 0, by decide⟩]
  have net : ofMantissas euro 999999999999999999 [] = .ok ⟨euro, 999999999999999999, []⟩ := by
    decide +kernel
  have taxed : (⟨euro, 999999999999999999, []⟩ : Amount).addTaxes rates =
      .ok ⟨euro, 999999999999999999,
        [999999999999999999, -8999999999999999991, 8999999999999999991]⟩ := by
    decide +kernel
  exact ⟨_, rfl, rfl, reachable_of_addTaxes net (by decide) taxed⟩

/-- Two taxes that cancel each other, of nineteen digits each; and two of which one is the least
word, whose sign cannot be changed. -/
theorem exists_reachable_of_many_digits :
    (∃ a : Amount, ReachableWhen Decimal.Bounded (fun _ _ => True) a ∧
      a.gross = 999999999999999999 ∧ ∃ n ∈ a.components, ¬FitsDigits n) ∧
    ∃ a : Amount, ReachableWhen Decimal.Bounded (fun _ _ => True) a ∧ a.gross = 0 ∧
      a.negate = .error .overrun ∧ ∃ n ∈ a.components, FitsWord n ∧ ¬FitsWord (-n) := by
  constructor
  · obtain ⟨a, hgross, hcomponents, reachable⟩ := exists_reachable_of_cancelling_taxes
    refine ⟨a, reachable, hgross, 8999999999999999991, ?_, by decide⟩
    rw [hcomponents]
    decide
  · let euro : Currency := ⟨"EUR", 2, by decide +kernel, by decide⟩
    let rates : List Decimal := [⟨-0x800000, 0, by decide⟩, ⟨0x7FFFFF, 0, by decide⟩]
    have net : ofMantissas euro 0x10000000000 [] = .ok ⟨euro, 0x10000000000, []⟩ := by
      decide +kernel
    have taxed : (⟨euro, 0x10000000000, []⟩ : Amount).addTaxes rates =
        .ok ⟨euro, 0, [0x10000000000, -0x8000000000000000, 0x7FFFFF0000000000]⟩ := by
      decide +kernel
    exact ⟨_, reachable_of_addTaxes net (by decide) taxed, rfl, by decide +kernel,
      -0x8000000000000000, by decide, by decide, by decide⟩

end DecimalMoney.Amount
