import DecimalMoney.Amount.Balance
import DecimalMoney.Amount.Tax
import DecimalMoney.Json.Money
import DecimalMoney.Proofs.Amount.Multiples

/-!
# Reachable amounts

Amounts come from mantissas, from a decimal or from structured data, and operations make further
amounts of them.  Only the first and the last of these check that the components add up; all other
ways keep a balance that is there or make a new one.

## Main definitions

* `DecimalMoney.Amount.Taxed` : taxes added to an amount or split off it.
* `DecimalMoney.Amount.ReachableWhen` : amounts that some sequence of operations leads to, where
  values and rates meet a condition and so do the taxes that are computed.
* `DecimalMoney.Amount.Reachable` : the same without conditions.

## Main results

* `DecimalMoney.Amount.balanced_of_scaleTo` : scaling makes balanced amounts of any others.
* `DecimalMoney.Amount.balanced_of_addTaxes`, `DecimalMoney.Amount.balanced_of_splitTaxes` : so do
  taxes.
* `DecimalMoney.Amount.ReachableWhen.balanced` : every reachable amount is balanced.
-/

namespace DecimalMoney.Amount

/-! ### Construction -/

/-- An amount that passes the check is balanced. -/
theorem balanced_of_checkBalance {a : Amount} (h : a.checkBalance = .ok ()) : a.Balanced := by
  intro nonempty
  rw [checkBalance, if_neg nonempty] at h
  obtain ⟨sum, hsum, h⟩ := bind_eq_ok_iff.1 h
  obtain ⟨missing, hmissing, h⟩ := bind_eq_ok_iff.1 h
  obtain ⟨_, rfl⟩ := checkWord_eq_ok_iff.1 hmissing
  split_ifs at h with zero
  rw [sum_eq_of_wordSum hsum] at zero
  exact (sub_eq_zero.1 zero).symm

theorem balanced_of_ofMantissas {currency : Currency} {gross : Int} {components : List Int}
    {a : Amount} (h : ofMantissas currency gross components = .ok a) : a.Balanced := by
  obtain ⟨_, _, h⟩ := bind_eq_ok_iff.1 h
  obtain ⟨_, _, h⟩ := bind_eq_ok_iff.1 h
  obtain ⟨_, hcheck, h⟩ := bind_eq_ok_iff.1 h
  cases h
  exact balanced_of_checkBalance hcheck

theorem balanced_of_ofDecimal {value : Decimal} {currency : Currency} {a : Amount}
    (h : ofDecimal value currency = .ok a) : a.Balanced := by
  obtain ⟨_, _, h⟩ := bind_eq_ok_iff.1 h
  cases h
  exact balanced_of_components_eq_nil rfl

/-- What is read ahead under a condition does not change the result. -/
private theorem eq_ok_of_ahead {ε α β : Type} {condition : Prop} [Decidable condition]
    {ahead : Except ε α} {rest : Except ε β} {b : β}
    (h : (if condition then ahead >>= fun _ => rest else rest) = .ok b) : rest = .ok b := by
  split_ifs at h
  · obtain ⟨_, _, h⟩ := bind_eq_ok_iff.1 h
    exact h
  · exact h

/-- An amount that has been read was made from mantissas. -/
theorem exists_ofMantissas_of_ofJson {value : Json} {a : Amount} (h : ofJson value = .ok a) :
    ∃ currency gross components, ofMantissas currency gross components = .ok a := by
  obtain ⟨_, _, h⟩ := bind_eq_ok_iff.1 h
  obtain ⟨_, _, h⟩ := bind_eq_ok_iff.1 (eq_ok_of_ahead h)
  obtain ⟨_, _, h⟩ := bind_eq_ok_iff.1 h
  obtain ⟨components, _, h⟩ := bind_eq_ok_iff.1 h
  obtain ⟨currency, _, h⟩ := bind_eq_ok_iff.1 h
  obtain ⟨gross, _, h⟩ := bind_eq_ok_iff.1 h
  obtain ⟨_, _, h⟩ := bind_eq_ok_iff.1 h
  exact ⟨currency, gross, components.getD [], Decoded.ofResult_eq_ok_iff.1 h⟩

/-! ### Exact arithmetic -/

/-- An operation that respects sums, applied entry by entry, does to the sums what it does to the
entries. -/
theorem sum_map_zip {op : Int → Int → Int} (zero : op 0 0 = 0)
    (additive : ∀ x y u v, op (x + u) (y + v) = op x y + op u v) {l r : List Int}
    (lengths : l.length = r.length) :
    ((l.zip r).map fun c => op c.1 c.2).sum = op l.sum r.sum := by
  induction l generalizing r with
  | nil =>
    rw [List.length_eq_zero_iff.1 lengths.symm]
    exact zero.symm
  | cons x l ih =>
    obtain ⟨y, r, rfl⟩ := List.exists_cons_of_length_eq_add_one lengths.symm
    rw [List.zip_cons_cons, List.map_cons, List.sum_cons, List.sum_cons, List.sum_cons, additive,
      ih (Nat.succ.inj lengths)]

/-- An operation that respects sums keeps the balance. -/
theorem Balanced.zipWith {op : Int → Int → Int} (zero : op 0 0 = 0)
    (additive : ∀ x y u v, op (x + u) (y + v) = op x y + op u v) {a b c : Amount} (ha : a.Balanced)
    (hb : b.Balanced) (h : Amount.zipWith op a b = .ok c) : c.Balanced := by
  unfold Amount.zipWith at h
  split_ifs at h with _ lengths
  obtain ⟨gross, hgross, h⟩ := bind_eq_ok_iff.1 h
  obtain ⟨components, hcomponents, h⟩ := bind_eq_ok_iff.1 h
  cases h
  obtain ⟨_, rfl⟩ := checkDigits_eq_ok_iff.1 hgross
  have hlengths : a.components.length = b.components.length := not_ne_iff.1 lengths
  obtain rfl := eq_map_of_mapM hcomponents fun c _ x hx => (checkDigits_eq_ok_iff.1 hx).2
  intro nonempty
  have hne : a.components.zip b.components ≠ [] := fun h => nonempty (by simp [h])
  have hane : a.components ≠ [] := fun h => hne (by simp [h])
  have hbne : b.components ≠ [] := fun h => hne (by simp [h])
  rw [sum_map_zip zero additive hlengths, ha hane, hb hbne]

theorem Balanced.add {a b c : Amount} (ha : a.Balanced) (hb : b.Balanced) (h : a.add b = .ok c) :
    c.Balanced :=
  Balanced.zipWith (by decide) (fun _ _ _ _ => add_add_add_comm _ _ _ _) ha hb h

theorem Balanced.subtract {a b c : Amount} (ha : a.Balanced) (hb : b.Balanced)
    (h : a.subtract b = .ok c) : c.Balanced :=
  Balanced.zipWith (by decide) (fun _ _ _ _ => add_sub_add_comm _ _ _ _) ha hb h

theorem Balanced.negate {a b : Amount} (ha : a.Balanced) (h : a.negate = .ok b) : b.Balanced := by
  obtain ⟨_, rfl⟩ := negate_eq_ok_iff.1 h
  exact ha.opposite

theorem Balanced.multiplyInt {a b : Amount} {factor : Int} (ha : a.Balanced)
    (h : a.multiplyInt factor = .ok b) : b.Balanced := by
  obtain rfl := eq_of_multiplyInt h
  intro nonempty
  have hne : a.components ≠ [] := fun h => nonempty (by simp [h])
  rw [List.sum_map_mul_right, List.map_id', ha hne]

/-! ### Scaling -/

/-- Scaling apportions the gross value and its components, whether they were balanced or not. -/
theorem balanced_of_scaleTo {a b : Amount} {currency : Currency} {numerator denominator : Int}
    {mode : RoundingMode} (h : a.scaleTo currency numerator denominator mode = .ok b) :
    b.Balanced := by
  obtain ⟨_, ⟨_, bare, _⟩ | ⟨_, happortion⟩⟩ := scaleTo_cases h
  · exact balanced_of_components_eq_nil bare
  · exact fun _ => (gap_eq_zero_iff.1 (gap_of_apportion happortion)).symm

theorem Balanced.multiplyRatio {a b : Amount} {numerator denominator : Int} {mode : RoundingMode}
    (ha : a.Balanced) (h : a.multiplyRatio numerator denominator mode = .ok b) : b.Balanced := by
  unfold Amount.multiplyRatio at h
  split_ifs at h with zero one
  · cases h
    exact ha
  · exact balanced_of_scaleTo h

theorem Balanced.multiplyDecimal {a b : Amount} {factor : Decimal} (ha : a.Balanced)
    (h : a.multiplyDecimal factor = .ok b) : b.Balanced := by
  unfold Amount.multiplyDecimal at h
  split_ifs at h with one minusOne zero integral
  · cases h
    exact ha
  · exact ha.negate h
  · cases h
    exact balanced_cleared a
  · exact ha.multiplyInt h
  · exact balanced_of_scaleTo h

/-- The currency plays no part in the balance. -/
theorem Balanced.convert {a b : Amount} {rate : Decimal} {currency : Currency} (ha : a.Balanced)
    (h : a.convert rate currency = .ok b) : b.Balanced := by
  unfold Amount.convert at h
  dsimp only at h
  split_ifs at h with coarser
  · obtain ⟨_, _, h⟩ := bind_eq_ok_iff.1 h
    exact balanced_of_scaleTo h
  · obtain ⟨_, _, h⟩ := bind_eq_ok_iff.1 h
    obtain ⟨_, _, h⟩ := bind_eq_ok_iff.1 h
    obtain ⟨product, hproduct, h⟩ := bind_eq_ok_iff.1 h
    have hbalanced := ha.multiplyInt hproduct
    cases h
    exact hbalanced

/-! ### Taxes -/

/-- The gross value that taxes lead to is the sum of net value and taxes. -/
theorem balanced_of_addTaxes {a b : Amount} {rates : List Decimal}
    (h : a.addTaxes rates = .ok b) : b.Balanced := by
  obtain ⟨bare, ⟨_, rfl⟩ | ⟨_, _, _, hsum, _, rfl⟩⟩ := addTaxes_cases h
  · exact balanced_of_components_eq_nil bare
  · exact fun _ => (sum_eq_of_wordSum hsum).symm

/-- What rounding leaves over goes to the net value, so that nothing is missing. -/
theorem balanced_of_splitTaxes {a b : Amount} {rates : List Decimal}
    (h : a.splitTaxes rates = .ok b) : b.Balanced := by
  obtain ⟨bare, ⟨_, rfl⟩ | ⟨split, hsplit, _, rfl⟩⟩ := splitTaxes_cases h
  · exact balanced_of_components_eq_nil bare
  · obtain ⟨_, _, _, _, hresidual⟩ := TaxSplit.exists_total_of_ofGross hsplit
    intro _
    rw [List.sum_cons, TaxSplit.adjustedNet, gap_eq_of_shortfall hresidual, gap_cons,
      List.sum_cons]
    ring

/-- The second amount is the first one with one tax for each rate, added to it or split off. -/
def Taxed (rates : List Decimal) (a b : Amount) : Prop :=
  a.addTaxes rates = .ok b ∨ a.splitTaxes rates = .ok b

theorem balanced_of_taxed {a b : Amount} {rates : List Decimal} (h : Taxed rates a b) :
    b.Balanced :=
  h.elim balanced_of_addTaxes balanced_of_splitTaxes

/-! ### Reachable amounts -/

/-- The amounts that a sequence of operations leads to, each of which succeeds.  The values and
rates on the way meet one condition, and every step that computes taxes is permitted by its rates
and its result.  A step that is not checked has no result outside the words: there it traps, and
leads to no amount. -/
inductive ReachableWhen (decimal : Decimal → Prop) (permitted : List Decimal → Amount → Prop) :
    Amount → Prop
  | ofMantissas {currency : Currency} {gross : Int} {components : List Int} {a : Amount} :
      ofMantissas currency gross components = .ok a → ReachableWhen decimal permitted a
  | ofDecimal {value : Decimal} {currency : Currency} {a : Amount} :
      decimal value → ofDecimal value currency = .ok a → ReachableWhen decimal permitted a
  | ofJson {value : Json} {a : Amount} : ofJson value = .ok a → ReachableWhen decimal permitted a
  | cleared {a : Amount} :
      ReachableWhen decimal permitted a → ReachableWhen decimal permitted a.cleared
  | negate {a b : Amount} :
      ReachableWhen decimal permitted a → a.negate = .ok b → ReachableWhen decimal permitted b
  | add {a b c : Amount} :
      ReachableWhen decimal permitted a → ReachableWhen decimal permitted b → a.add b = .ok c →
      ReachableWhen decimal permitted c
  | subtract {a b c : Amount} :
      ReachableWhen decimal permitted a → ReachableWhen decimal permitted b →
      a.subtract b = .ok c → ReachableWhen decimal permitted c
  | multiplyInt {a b : Amount} {factor : Int} :
      ReachableWhen decimal permitted a → a.multiplyInt factor = .ok b →
      ReachableWhen decimal permitted b
  | multiplyRatio {a b : Amount} {numerator denominator : Int} {mode : RoundingMode} :
      ReachableWhen decimal permitted a → a.multiplyRatio numerator denominator mode = .ok b →
      ReachableWhen decimal permitted b
  | multiplyDecimal {a b : Amount} {factor : Decimal} :
      ReachableWhen decimal permitted a → a.multiplyDecimal factor = .ok b →
      ReachableWhen decimal permitted b
  | convert {a b : Amount} {rate : Decimal} {currency : Currency} :
      ReachableWhen decimal permitted a → a.convert rate currency = .ok b →
      ReachableWhen decimal permitted b
  | taxed {a b : Amount} {rates : List Decimal} :
      ReachableWhen decimal permitted a → (∀ r ∈ rates, decimal r) → Taxed rates a b →
      permitted rates b → ReachableWhen decimal permitted b

/-- The amounts that any sequence of operations leads to, whatever the values and the rates are. -/
abbrev Reachable : Amount → Prop := ReachableWhen (fun _ => True) fun _ _ => True

namespace ReachableWhen

variable {decimal : Decimal → Prop} {permitted : List Decimal → Amount → Prop} {a : Amount}

/-- Weaker conditions make no fewer amounts reachable. -/
theorem mono {decimal' : Decimal → Prop} {permitted' : List Decimal → Amount → Prop}
    (decimals : ∀ x, decimal x → decimal' x)
    (taxes : ∀ rates b, permitted rates b → permitted' rates b)
    (h : ReachableWhen decimal permitted a) : ReachableWhen decimal' permitted' a := by
  induction h with
  | ofMantissas h => exact .ofMantissas h
  | ofDecimal hvalue h => exact .ofDecimal (decimals _ hvalue) h
  | ofJson h => exact .ofJson h
  | cleared _ ih => exact ih.cleared
  | negate _ h ih => exact ih.negate h
  | add _ _ h iha ihb => exact iha.add ihb h
  | subtract _ _ h iha ihb => exact iha.subtract ihb h
  | multiplyInt _ h ih => exact ih.multiplyInt h
  | multiplyRatio _ h ih => exact ih.multiplyRatio h
  | multiplyDecimal _ h ih => exact ih.multiplyDecimal h
  | convert _ h ih => exact ih.convert h
  | taxed _ hrates h hpermitted ih =>
      exact ih.taxed (fun r hr => decimals r (hrates r hr)) h (taxes _ _ hpermitted)

/-- Every reachable amount is balanced. -/
theorem balanced (h : ReachableWhen decimal permitted a) : a.Balanced := by
  induction h with
  | ofMantissas h => exact balanced_of_ofMantissas h
  | ofDecimal _ h => exact balanced_of_ofDecimal h
  | ofJson h =>
      obtain ⟨_, _, _, h⟩ := exists_ofMantissas_of_ofJson h
      exact balanced_of_ofMantissas h
  | cleared => exact balanced_cleared _
  | negate _ h ih => exact ih.negate h
  | add _ _ h iha ihb => exact iha.add ihb h
  | subtract _ _ h iha ihb => exact iha.subtract ihb h
  | multiplyInt _ h ih => exact ih.multiplyInt h
  | multiplyRatio _ h ih => exact ih.multiplyRatio h
  | multiplyDecimal _ h ih => exact ih.multiplyDecimal h
  | convert _ h ih => exact ih.convert h
  | taxed _ _ h _ _ => exact balanced_of_taxed h

end ReachableWhen

/-- **The components of every reachable amount, if it has any, add up to its gross value.** -/
theorem Reachable.sum_components_eq_gross {a : Amount} (h : Reachable a)
    (nonempty : a.components ≠ []) : a.components.sum = a.gross :=
  h.balanced nonempty

/-- A net value with two taxes, a third of it and the opposite of that: each third is rounded down,
and the unit that is missing goes to the smaller tax. -/
theorem Reachable.sum_components_eq_gross_of_third :
    ∃ a : Amount, Reachable a ∧ a.components = [-3333, -633, -184] ∧
      a.components.sum = a.gross := by
  let euro : Currency := ⟨"EUR", 2, by decide +kernel, by decide⟩
  have net : Amount.ofMantissas euro 10000 [] = .ok ⟨euro, 10000, []⟩ := by decide +kernel
  have taxed : (⟨euro, 10000, []⟩ : Amount).addTaxes [⟨19, 2, by decide⟩, ⟨55, 3, by decide⟩] =
      .ok ⟨euro, 12450, [10000, 1900, 550]⟩ := by decide +kernel
  have third : (⟨euro, 12450, [10000, 1900, 550]⟩ : Amount).multiplyRatio 1 3 .halfEven =
      .ok ⟨euro, 4150, [3333, 633, 184]⟩ := by decide +kernel
  have opposite : (⟨euro, 4150, [3333, 633, 184]⟩ : Amount).negate =
      .ok ⟨euro, -4150, [-3333, -633, -184]⟩ := by decide +kernel
  have start : Reachable ⟨euro, 10000, []⟩ := .ofMantissas net
  have invoice := start.taxed (fun _ _ => trivial) (.inl taxed) trivial
  have reachable := (invoice.multiplyRatio third).negate opposite
  exact ⟨_, reachable, rfl, Reachable.sum_components_eq_gross reachable (by decide)⟩

end DecimalMoney.Amount
