import DecimalMoney.Json.Money
import DecimalMoney.Proofs.Amount.Construction
import DecimalMoney.Proofs.Amount.Digits

/-!
# Amounts are read back from structured data

An amount in structured data is checked when it is read: every number has to keep to eighteen
digits, and the components have to add up by sums that fit a word.  Operations on amounts guarantee
less than that.  Their components add up, but taxes are not checked one by one, and a sum of more
than nine components may leave the words on its way to a small gross value.

## Main results

* `DecimalMoney.Amount.ofMantissas_self`, `DecimalMoney.Amount.ofMantissas_self_overflow` : a
  balanced amount is made from its own parts, or that overflows.
* `DecimalMoney.Amount.ofJson_toJson_eq` : reading an amount makes it from its parts again.
* `DecimalMoney.Amount.reads_back_iff` : which reachable amounts are read back.
-/

namespace DecimalMoney.Amount

variable {a : Amount}

/-! ### Amounts made from their own parts -/

/-- What an amount made from mantissas has been checked for. -/
theorem fits_of_ofMantissas {currency : Currency} {gross : Int} {components : List Int}
    (h : ofMantissas currency gross components = .ok a) :
    (∀ n ∈ a.components, FitsDigits n) ∧ PartialSumsFit a.components := by
  refine ⟨(within_fitsDigits_iff.1 (within_of_ofMantissas h)).2, ?_⟩
  obtain ⟨_, _, h⟩ := bind_eq_ok_iff.1 h
  obtain ⟨_, _, h⟩ := bind_eq_ok_iff.1 h
  obtain ⟨_, hcheck, h⟩ := bind_eq_ok_iff.1 h
  cases h
  rw [checkBalance] at hcheck
  split_ifs at hcheck with empty
  · rw [empty]
    exact partialSumsFit_nil
  · obtain ⟨_, hsum, _⟩ := bind_eq_ok_iff.1 hcheck
    exact partialSumsFit_of_wordSum hsum

/-- **A balanced amount is made from its own parts**, if all of them have at most eighteen digits
and all sums on the way fit a word. -/
theorem ofMantissas_self (balanced : a.Balanced) (hgross : FitsDigits a.gross)
    (hdigits : ∀ n ∈ a.components, FitsDigits n) (hsums : PartialSumsFit a.components) :
    ofMantissas a.currency a.gross a.components = .ok a :=
  ofMantissas_eq_ok_iff.2
    ⟨decision_eq_ok_iff.2 ⟨⟨hgross, hdigits⟩, or_iff_not_imp_left.2 balanced⟩, hsums⟩

/-- Otherwise this overflows. -/
theorem ofMantissas_self_overflow (hgross : FitsDigits a.gross)
    (h : ¬((∀ n ∈ a.components, FitsDigits n) ∧ PartialSumsFit a.components)) :
    ofMantissas a.currency a.gross a.components = .error .overflow := by
  by_cases hdigits : ∀ n ∈ a.components, FitsDigits n
  · exact ofMantissas_eq_overflow fun sums => h ⟨hdigits, sums.1⟩
  · rw [ofMantissas, checkDigits_of_fitsDigits hgross, ok_bind,
      mapM_checkDigits_of_not_forall hdigits]
    rfl

/-! ### Structured data -/

/-- A list of words is read back. -/
theorem toList_toWord_map_integer {values : List Int} (h : ∀ n ∈ values, FitsWord n) :
    Json.toList Json.toWord (.array (values.map .integer)) = .ok values := by
  rw [Json.toList, mapM_eq_ok_iff, List.forall₂_map_left_iff, List.forall₂_same]
  exact fun n hn => Json.toWord_integer (h n hn)

/-- **Reading an amount makes it from its parts again**, if these are words. -/
theorem ofJson_toJson_eq (hgross : FitsWord a.gross) (hcomponents : ∀ n ∈ a.components, FitsWord n) :
    ofJson a.toJson = .ofResult (ofMantissas a.currency a.gross a.components) := by
  simp [ofJson, toJson, record, Record.unpack, Unpacked.read?, Unpacked.require, Unpacked.close,
    bind, Except.bind, pure, Except.pure, List.lookup_cons, toList_toWord_map_integer hcomponents,
    Currency.ofJson_toJson, Json.toWord_integer hgross]

/-! ### Reachable amounts -/

/-- **A reachable amount is read back** from structured data exactly if all its components have at
most eighteen digits and their sums on the way fit a word; otherwise reading it overflows.  Nine
components or fewer are read back if no step had both a negative rate and a tax of more digits. -/
theorem reads_back_iff (h : ReachableWhen Decimal.Bounded (fun _ _ => True) a) :
    (ofJson a.toJson = .ok a ↔
      (∀ n ∈ a.components, FitsDigits n) ∧ PartialSumsFit a.components) ∧
    (ofJson a.toJson ≠ .ok a → ofJson a.toJson = .error (.refused .overflow)) ∧
    (ReachableWhen Decimal.Bounded TaxesFit a → a.components.length ≤ 9 →
      ofJson a.toJson = .ok a) := by
  have hwords := h.within_fitsWord
  have hgross := hwords.gross
  have read := ofJson_toJson_eq hgross.fitsWord
    (hwords.forall_components fun _ => FitsDigits.fitsWord)
  have back : (∀ n ∈ a.components, FitsDigits n) ∧ PartialSumsFit a.components →
      ofJson a.toJson = .ok a := by
    rintro ⟨hdigits, hsums⟩
    rw [read, ofMantissas_self h.balanced hgross hdigits hsums]
    rfl
  refine ⟨⟨fun hread => ?_, back⟩, fun unread => ?_, fun hfit short => ?_⟩
  · obtain ⟨_, _, _, hmade⟩ := exists_ofMantissas_of_ofJson hread
    exact fits_of_ofMantissas hmade
  · rw [read, ofMantissas_self_overflow hgross fun hfits => unread (back hfits)]
    rfl
  · have hdigits := (within_fitsDigits_iff.1 hfit.within_fitsDigits).2
    exact back ⟨hdigits, partialSumsFit_of_length_le hdigits short⟩

/-- The refund of an invoice with one tax. -/
theorem reads_back_iff_of_refund :
    ∃ a : Amount, a.components = [-10000, -1900] ∧
      ReachableWhen Decimal.Bounded (fun _ _ => True) a ∧
      ReachableWhen Decimal.Bounded TaxesFit a ∧ ofJson a.toJson = .ok a := by
  obtain ⟨a, hcomponents, refund⟩ := exists_reachable_refund
  have always := refund.mono (fun _ => id) fun _ _ _ => trivial
  have short : a.components.length ≤ 9 := by
    rw [hcomponents]
    decide
  exact ⟨a, hcomponents, always, refund, (reads_back_iff always).2.2 refund short⟩

/-- Two amounts that are not read back: two taxes that cancel each other, of nineteen digits each;
and nineteen components of eighteen digits, of which ten add up to more than a word. -/
theorem exists_reachable_not_read_back :
    (∃ a : Amount, ReachableWhen Decimal.Bounded (fun _ _ => True) a ∧
      a.gross = 999999999999999999 ∧ ofJson a.toJson = .error (.refused .overflow)) ∧
    ∃ a : Amount, ReachableWhen Decimal.Bounded TaxesFit a ∧ a.gross = 999999999999999998 ∧
      ofJson a.toJson = .error (.refused .overflow) := by
  constructor
  · obtain ⟨a, hgross, hcomponents, reachable⟩ := exists_reachable_of_cancelling_taxes
    have hwords := reachable.within_fitsWord
    refine ⟨a, reachable, hgross, ?_⟩
    rw [ofJson_toJson_eq hwords.gross.fitsWord
      (hwords.forall_components fun _ => FitsDigits.fitsWord),
      ofMantissas_self_overflow hwords.gross]
    · rfl
    · rw [hcomponents]
      exact fun fits => absurd (fits.1 8999999999999999991 (by decide)) (by decide)
  · let euro : Currency := ⟨"EUR", 2, by decide +kernel, by decide⟩
    let parts (n : Int) : List Int := List.replicate 10 n ++ List.replicate 9 (-n)
    have half : ofMantissas euro 499999999999999999 (parts 499999999999999999) =
        .ok ⟨euro, 499999999999999999, parts 499999999999999999⟩ := by decide +kernel
    have double : (⟨euro, 499999999999999999, parts 499999999999999999⟩ : Amount).multiplyInt 2 =
        .ok ⟨euro, 999999999999999998, parts 999999999999999998⟩ := by decide +kernel
    refine ⟨_, (ReachableWhen.ofMantissas half).multiplyInt double, rfl, ?_⟩
    rw [ofJson_toJson_eq (by decide) (by decide +kernel), ofMantissas_self_overflow (by decide)]
    · rfl
    · exact fun fits => absurd (fits.2 10) (by decide +kernel)

end DecimalMoney.Amount
