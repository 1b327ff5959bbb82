import DecimalMoney.Amount.Basic
import DecimalMoney.Proofs.Sums

/-!
# What the construction of an amount decides

An amount made from mantissas is refused as an overflow if one of them has more than eighteen
digits, and as a mismatch if the components do not add up to the gross value.  This decision speaks
of numbers and of their exact sum only, so that the order of the components is of no importance to
it.  The construction follows it as long as the sums of all first parts of the breakdown, and the
difference of the gross value and the sum, are words; anything else it refuses as an overflow,
whatever the exact sum is.  Up to eight components nothing leaves the words.

## Main definitions

* `DecimalMoney.Amount.decision` : the decision by the exact sum.
* `DecimalMoney.Amount.SumsFit` : nothing that the construction computes leaves the words.

## Main results

* `DecimalMoney.Amount.ofMantissas_eq_decision`, `DecimalMoney.Amount.ofMantissas_eq_overflow` :
  where the construction follows the decision, and what it does elsewhere.
* `DecimalMoney.Amount.ofMantissas_eq_ok_iff` : the amounts that are made.
* `DecimalMoney.Amount.ofMantissas_perm` : another order of the components.
* `DecimalMoney.Amount.ofMantissas_decides` : all of this together.
-/

namespace DecimalMoney.Amount

/-- The decision on gross value and components by their digits and their exact sum. -/
def decision (currency : Currency) (gross : Int) (components : List Int) : Except Failure Amount :=
  if ¬(FitsDigits gross ∧ ∀ c ∈ components, FitsDigits c) then .error .overflow
  else if components = [] ∨ components.sum = gross then .ok { currency, gross, components }
  else .error (.sumMismatch gross components.sum)

variable {currency : Currency} {gross : Int} {components : List Int}

/-- What the decision accepts. -/
theorem decision_eq_ok_iff :
    decision currency gross components = .ok { currency, gross, components } ↔
      (FitsDigits gross ∧ ∀ c ∈ components, FitsDigits c) ∧
        (components = [] ∨ components.sum = gross) := by
  unfold decision
  split_ifs with digits sum <;> simp_all

/-- The order of the components is of no importance to the decision. -/
theorem decision_eq_ok_perm {permuted : List Int} (h : permuted.Perm components) :
    decision currency gross permuted = .ok { currency, gross, components := permuted } ↔
      decision currency gross components = .ok { currency, gross, components } := by
  rw [decision_eq_ok_iff, decision_eq_ok_iff, h.sum_eq, ← List.length_eq_zero_iff, h.length_eq,
    List.length_eq_zero_iff]
  simp only [h.mem_iff]

/-! ### The construction -/

/-- Every sum and the difference that the check of a breakdown computes is a word. -/
def SumsFit (gross : Int) (components : List Int) : Prop :=
  PartialSumsFit components ∧ FitsWord (gross - components.sum)

/-- Up to eight components nothing leaves the words: with the gross value there are nine numbers. -/
theorem sumsFit_of_length_le (hgross : FitsDigits gross) (hdigits : ∀ c ∈ components, FitsDigits c)
    (few : components.length ≤ 8) : SumsFit gross components := by
  have opposite : ∀ c ∈ components.map Neg.neg, FitsDigits c := by
    intro c hc
    obtain ⟨d, hd, rfl⟩ := List.mem_map.1 hc
    exact (hdigits d hd).neg
  have hall := partialSumsFit_of_length_le (List.forall_mem_cons.2 ⟨hgross, opposite⟩)
    (by rw [List.length_cons, List.length_map]; omega)
  have hdifference := hall (gross :: components.map Neg.neg).length
  rw [List.take_length, List.sum_cons, ← List.sum_neg, ← sub_eq_add_neg] at hdifference
  exact ⟨partialSumsFit_of_length_le hdigits (by omega), hdifference⟩

/-- Where the digits fit, only the check of the breakdown is left. -/
theorem ofMantissas_of_fitsDigits (hgross : FitsDigits gross)
    (hdigits : ∀ c ∈ components, FitsDigits c) :
    ofMantissas currency gross components = (do
      checkBalance { currency, gross, components }
      return { currency, gross, components }) := by
  rw [ofMantissas, checkDigits_of_fitsDigits hgross, mapM_checkDigits_of_forall hdigits]
  rfl

/-- Where they do not, nothing else matters. -/
theorem ofMantissas_of_not_fitsDigits
    (h : ¬(FitsDigits gross ∧ ∀ c ∈ components, FitsDigits c)) :
    ofMantissas currency gross components = .error .overflow := by
  rw [ofMantissas]
  by_cases hgross : FitsDigits gross
  · rw [checkDigits_of_fitsDigits hgross, ok_bind,
      mapM_checkDigits_of_not_forall fun hdigits => h ⟨hgross, hdigits⟩]
    rfl
  · rw [checkDigits_eq_overflow_iff.2 hgross]
    rfl

/-- The check of a breakdown whose sums fit goes by the exact sum. -/
theorem checkBalance_of_sumsFit (h : SumsFit gross components) :
    checkBalance { currency, gross, components } =
      if components = [] ∨ components.sum = gross then .ok ()
      else .error (.sumMismatch gross components.sum) := by
  rw [checkBalance]
  by_cases empty : components = []
  · rw [if_pos empty, if_pos (.inl empty)]
  · simp only [empty, if_false, false_or, wordSum_of_partialSumsFit h.1, ok_bind,
      checkWord_of_fitsWord h.2, sub_eq_zero, sub_sub_cancel, eq_comm]

/-- Otherwise it overflows. -/
theorem checkBalance_of_not_sumsFit (nonempty : components ≠ [])
    (h : ¬SumsFit gross components) :
    checkBalance { currency, gross, components } = .error .overflow := by
  rw [checkBalance, if_neg nonempty]
  by_cases sums : PartialSumsFit components
  · have hdifference : ¬FitsWord (gross - components.sum) := fun fits => h ⟨sums, fits⟩
    rw [wordSum_of_partialSumsFit sums, ok_bind, checkWord, if_neg hdifference]
    rfl
  · rw [wordSum_of_not_partialSumsFit sums]
    rfl

/-- **The construction follows the decision** where all sums fit. -/
theorem ofMantissas_eq_decision (h : SumsFit gross components) :
    ofMantissas currency gross components = decision currency gross components := by
  by_cases digits : FitsDigits gross ∧ ∀ c ∈ components, FitsDigits c
  · rw [ofMantissas_of_fitsDigits digits.1 digits.2, checkBalance_of_sumsFit h, decision,
      if_neg (not_not.2 digits)]
    split_ifs <;> rfl
  · rw [ofMantissas_of_not_fitsDigits digits, decision, if_pos digits]

/-- **Elsewhere it overflows.** -/
theorem ofMantissas_eq_overflow (h : ¬SumsFit gross components) :
    ofMantissas currency gross components = .error .overflow := by
  by_cases digits : FitsDigits gross ∧ ∀ c ∈ components, FitsDigits c
  · have nonempty : components ≠ [] := by
      rintro rfl
      exact h (sumsFit_of_length_le digits.1 digits.2 (Nat.zero_le _))
    rw [ofMantissas_of_fitsDigits digits.1 digits.2, checkBalance_of_not_sumsFit nonempty h]
    rfl
  · exact ofMantissas_of_not_fitsDigits digits

/-- Up to eight components the construction follows the decision. -/
theorem ofMantissas_eq_decision_of_length_le (few : components.length ≤ 8) :
    ofMantissas currency gross components = decision currency gross components := by
  by_cases digits : FitsDigits gross ∧ ∀ c ∈ components, FitsDigits c
  · exact ofMantissas_eq_decision (sumsFit_of_length_le digits.1 digits.2 few)
  · rw [ofMantissas_of_not_fitsDigits digits, decision, if_pos digits]

/-- **The amounts that are made** are those that the decision accepts, as long as the sums of all
first parts fit: the difference is zero then. -/
theorem ofMantissas_eq_ok_iff :
    ofMantissas currency gross components = .ok { currency, gross, components } ↔
      decision currency gross components = .ok { currency, gross, components } ∧
        PartialSumsFit components := by
  constructor
  · intro made
    have sums : SumsFit gross components := by
      by_contra unfit
      rw [ofMantissas_eq_overflow unfit] at made
      cases made
    exact ⟨(ofMantissas_eq_decision sums).symm.trans made, sums.1⟩
  · rintro ⟨accepted, sums⟩
    have sumsFit : SumsFit gross components := by
      refine ⟨sums, ?_⟩
      obtain ⟨⟨hgross, _⟩, rfl | hsum⟩ := decision_eq_ok_iff.1 accepted
      · simpa using hgross.fitsWord
      · rw [hsum, sub_self]
        decide
    rw [ofMantissas_eq_decision sumsFit, accepted]

/-! ### The order of the components -/

section Order

variable {permuted : List Int} (h : permuted.Perm components)

include h

/-- **In another order** the components of an amount make an amount again, or they overflow. -/
theorem ofMantissas_perm
    (made : ofMantissas currency gross components = .ok { currency, gross, components }) :
    ofMantissas currency gross permuted = .ok { currency, gross, components := permuted } ∨
      ofMantissas currency gross permuted = .error .overflow := by
  by_cases sums : SumsFit gross permuted
  · exact .inl (ofMantissas_eq_ok_iff.2
      ⟨(decision_eq_ok_perm h).2 (ofMantissas_eq_ok_iff.1 made).1, sums.1⟩)
  · exact .inr (ofMantissas_eq_overflow sums)

/-- Nine components or fewer may stand in any order. -/
theorem ofMantissas_eq_ok_perm_of_length_le (few : components.length ≤ 9) :
    ofMantissas currency gross permuted = .ok { currency, gross, components := permuted } ↔
      ofMantissas currency gross components = .ok { currency, gross, components } := by
  have sums : ∀ {l : List Int}, l.length ≤ 9 →
      decision currency gross l = .ok { currency, gross, components := l } → PartialSumsFit l :=
    fun short accepted => partialSumsFit_of_length_le (decision_eq_ok_iff.1 accepted).1.2 short
  rw [ofMantissas_eq_ok_iff, ofMantissas_eq_ok_iff, and_iff_left_of_imp (sums few),
    and_iff_left_of_imp (sums (h.length_eq.trans_le few)), decision_eq_ok_perm h]

end Order

/-- **What the construction of an amount decides.** Where the sums of all first parts of the
breakdown and the difference of gross value and sum are words, in particular for up to eight
components, it is the decision by the digits and the exact sum.  Everything else is refused as an
overflow.  Another order of the components of an amount makes an amount or overflows, and up to nine
components it makes one. -/
theorem ofMantissas_decides (currency : Currency) (gross : Int) (components : List Int) :
    (SumsFit gross components →
      ofMantissas currency gross components = decision currency gross components) ∧
    (¬SumsFit gross components → ofMantissas currency gross components = .error .overflow) ∧
    (components.length ≤ 8 →
      ofMantissas currency gross components = decision currency gross components) ∧
    ∀ permuted : List Int, permuted.Perm components →
      (ofMantissas currency gross components = .ok { currency, gross, components } →
        ofMantissas currency gross permuted = .ok { currency, gross, components := permuted } ∨
          ofMantissas currency gross permuted = .error .overflow) ∧
      (components.length ≤ 9 →
        (ofMantissas currency gross permuted = .ok { currency, gross, components := permuted } ↔
          ofMantissas currency gross components = .ok { currency, gross, components })) :=
  ⟨ofMantissas_eq_decision, ofMantissas_eq_overflow, ofMantissas_eq_decision_of_length_le,
    fun _ h => ⟨ofMantissas_perm h, ofMantissas_eq_ok_perm_of_length_le h⟩⟩

/-- An invoice with two taxes, and the same invoice with its taxes exchanged. -/
theorem ofMantissas_decides_of_exchanged_taxes :
    ∃ currency : Currency, ([10000, 550, 1900] : List Int).Perm [10000, 1900, 550] ∧
      ofMantissas currency 12450 [10000, 1900, 550] =
        decision currency 12450 [10000, 1900, 550] ∧
      ofMantissas currency 12450 [10000, 550, 1900] =
        .ok ⟨currency, 12450, [10000, 550, 1900]⟩ := by
  let euro : Currency := ⟨"EUR", 2, by decide +kernel, by decide⟩
  have exchanged : ([10000, 550, 1900] : List Int).Perm [10000, 1900, 550] :=
    .cons _ (.swap _ _ _)
  have made : ofMantissas euro 12450 [10000, 1900, 550] =
      .ok ⟨euro, 12450, [10000, 1900, 550]⟩ := by decide +kernel
  obtain ⟨-, -, few, order⟩ := ofMantissas_decides euro 12450 [10000, 1900, 550]
  exact ⟨euro, exchanged, few (by decide), ((order _ exchanged).2 (by decide)).2 made⟩

/-- Ten components of eighteen digits and nine opposite ones are refused or make an amount,
depending on their order; and nine such components are refused as an overflow although their sum is
a word that is not the gross value. -/
theorem exists_order_refused :
    (∃ (currency : Currency) (gross : Int) (components permuted : List Int),
      permuted.Perm components ∧
      decision currency gross components = .ok { currency, gross, components } ∧
      ofMantissas currency gross components = .error .overflow ∧
      ofMantissas currency gross permuted = .ok { currency, gross, components := permuted }) ∧
    ∃ (currency : Currency) (gross : Int) (components : List Int),
      FitsWord components.sum ∧
      decision currency gross components = .error (.sumMismatch gross components.sum) ∧
      ofMantissas currency gross components = .error .overflow := by
  let euro : Currency := ⟨"EUR", 2, by decide +kernel, by decide⟩
  let n : Int := 999999999999999999
  constructor
  · refine ⟨euro, n, .replicate 10 n ++ .replicate 9 (-n),
      n :: (List.replicate 9 [n, -n]).flatten, ?_, ?_, ?_, ?_⟩ <;> decide +kernel
  · refine ⟨euro, n, .replicate 9 (-n), ?_, ?_, ?_⟩ <;> decide +kernel

end DecimalMoney.Amount
