import DecimalMoney.Proofs.Apportionment.Candidates
import DecimalMoney.Proofs.Rounding.Digits

/-!
# Apportionments of few numbers

Ten numbers of eighteen digits, a total and nine parts, cannot leave the words when they are added.
So an apportionment of so few numbers that add up fails only where a quotient does not fit a word,
where a number cannot be rounded to eighteen digits, or in the adjustment.  A multiple is the case
where nothing has to be adjusted.

## Main results

* `DecimalMoney.apportion_of_length_le` : an apportionment without its checks of sums.
* `DecimalMoney.apportion_mul_self` : an apportionment by an integer multiplies every number.
-/

namespace DecimalMoney

open TruncatedQuotient

section Short

variable {values : List Int} {numerator denominator : Int} {mode : RoundingMode}
  (digits : ∀ v ∈ values, FitsDigits v) (short : values.length ≤ 10) (adds_up : gap values = 0)

/-! ### Sums of few numbers -/

include digits short

/-- The parts of a short list have sums that fit. -/
theorem partialSumsFit_tail : PartialSumsFit values.tail :=
  partialSumsFit_of_length_le (fun v hv => digits v (List.mem_of_mem_tail hv))
    (by rw [List.length_tail]; omega)

/-- The shortfall of a short list is its gap, if that fits a word. -/
theorem shortfall_of_length_le (fits : FitsWord (gap values)) :
    shortfall values = .ok (gap values) := by
  have hsums := partialSumsFit_tail digits short
  cases values with
  | nil => rfl
  | cons total parts =>
    rw [List.tail_cons] at hsums
    rw [shortfall, wordSum_of_partialSumsFit hsums, ok_bind, ← gap_cons,
      checkWord_of_fitsWord fits]

include adds_up

/-- A short list that adds up passes the check. -/
theorem checkTotal_of_length_le : checkTotal values = .ok () := by
  have fits : FitsWord (gap values) := adds_up ▸ by decide
  rw [checkTotal, shortfall_of_length_le digits short fits, ok_bind, if_pos adds_up]

/-! ### The apportionment -/

variable (hn : FitsWord numerator) (hd : FitsWord denominator) (nonzero : denominator ≠ 0)

include hn hd nonzero

omit short adds_up in
/-- The truncated quotients of a list are the ratios, if their whole parts all fit words. -/
theorem mapM_ofProduct :
    (values.mapM fun v => ofProduct .installed v numerator denominator) =
      if ∀ v ∈ values, (ofRatio v numerator denominator).whole < UInt64.size then
        .ok (values.map fun v => ofRatio v numerator denominator)
      else .error .overflow := by
  rw [← mapM_ite]
  exact mapM_congr_left fun v hv => ofProduct_eq .installed (digits v hv).fitsWord hn hd nonzero

omit digits short adds_up hn hd in
/-- Ratios whose whole parts fit words are rounded as the exact products are. -/
theorem mapM_round (fits : ∀ v ∈ values, (ofRatio v numerator denominator).whole < UInt64.size)
    (mode : RoundingMode) :
    ((values.map fun v => ofRatio v numerator denominator).mapM fun q => do
      checkDigits (← q.round mode)) =
      values.mapM fun v : Int => mode.roundDigits ((v : ℚ) * numerator / denominator) := by
  rw [List.mapM_map]
  refine mapM_congr_left fun v hv => ?_
  rw [Function.comp_apply, round_eq_roundWord (remainder_ofRatio_lt v numerator nonzero) (fits v hv),
    value_ofRatio v numerator nonzero]
  exact mode.roundWord_bind_checkDigits _

omit digits hn hd in
/-- Rounding few numbers that add up leaves a gap that fits a word. -/
theorem fitsWord_gap_roundedApart :
    FitsWord (gap (roundedApart values numerator denominator mode)) := by
  by_cases closed : gap (roundedApart values numerator denominator mode) = 0
  · rw [closed]
    decide
  · have hcard := natAbs_gap_lt_card_correcting nonzero adds_up closed
    have hlength : (correcting values numerator denominator mode).card ≤ values.length :=
      (Finset.card_filter_le _ _).trans (Finset.card_range _).le
    unfold FitsWord
    omega

omit digits short adds_up hn hd nonzero in
/-- Numbers that can all be rounded to eighteen digits are rounded apart. -/
theorem eq_roundedApart_of_mapM_roundDigits {rounded : List Int}
    (h : (values.mapM fun v : Int => mode.roundDigits ((v : ℚ) * numerator / denominator)) =
      .ok rounded) :
    rounded = roundedApart values numerator denominator mode ∧ ∀ x ∈ rounded, FitsDigits x := by
  have hround : ∀ (x : ℚ) (n : Int), mode.roundDigits x = .ok n →
      n = mode.round x ∧ FitsDigits n := by
    intro x n hn
    unfold RoundingMode.roundDigits at hn
    split_ifs at hn with allowed
    cases hn
    exact ⟨rfl, allowed.1⟩
  exact ⟨eq_map_of_mapM h fun v _ x hx => (hround _ x hx).1,
    forall_mem_of_mapM h fun v _ x hx => (hround _ x hx).2⟩

/-- **An apportionment of few numbers that add up** fails where a quotient does not fit a word, where
a number cannot be rounded to eighteen digits, or in the adjustment; nowhere else. -/
theorem apportion_of_length_le :
    apportion values numerator denominator mode =
      if ∀ v ∈ values, (ofRatio v numerator denominator).whole < UInt64.size then do
        let rounded ← values.mapM fun v : Int =>
          mode.roundDigits ((v : ℚ) * numerator / denominator)
        let settled ← settle (gap rounded).sign (gap rounded).natAbs
          (ratioShares values numerator denominator mode)
        return settled.map Share.value
      else .error .overflow := by
  rw [apportion, checkTotal_of_length_le digits short adds_up, ok_bind,
    mapM_ofProduct digits hn hd nonzero]
  split_ifs with fits
  · rw [ok_bind, mapM_round nonzero fits]
    cases hrounded : values.mapM fun v : Int =>
        mode.roundDigits ((v : ℚ) * numerator / denominator) with
    | error failure => rfl
    | ok rounded =>
      obtain ⟨rfl, hdigits⟩ := eq_roundedApart_of_mapM_roundDigits hrounded
      have hlength : (roundedApart values numerator denominator mode).length ≤ 10 := by
        rwa [roundedApart, List.length_map]
      rw [ok_bind, ok_bind, shortfall_of_length_le hdigits hlength
        (fitsWord_gap_roundedApart short adds_up nonzero), ok_bind]
      split_ifs with closed
      · rw [closed]
        exact congrArg Except.ok (map_value_ratioShares values numerator denominator mode).symm
      · rfl
  · rfl

end Short

/-! ### Multiples -/

section Multiples

variable {values : List Int} {factor denominator : Int} (nonzero : denominator ≠ 0)

include nonzero

/-- A ratio of a multiple has no remainder. -/
theorem cast_mul_self_div (v factor : Int) :
    (v : ℚ) * (factor * denominator : Int) / denominator = (v * factor : Int) := by
  have hd : (denominator : ℚ) ≠ 0 := by exact_mod_cast nonzero
  push_cast
  rw [← mul_assoc, mul_div_cancel_right₀ _ hd]

/-- The whole part of such a ratio is the magnitude of the multiple. -/
theorem whole_ofRatio_mul_self (v factor : Int) :
    (ofRatio v (factor * denominator) denominator).whole = (v * factor).natAbs := by
  have hd : 0 < denominator.natAbs := Int.natAbs_pos.2 nonzero
  rw [ofRatio, Int.natAbs_mul, Int.natAbs_mul, ← mul_assoc, Nat.mul_div_cancel _ hd]

/-- **An apportionment by an integer multiplies every number**: nothing is rounded, and multiples of
numbers that add up do so too. -/
theorem apportion_mul_self (digits : ∀ v ∈ values, FitsDigits v) (short : values.length ≤ 10)
    (adds_up : gap values = 0) (hn : FitsWord (factor * denominator)) (hd : FitsWord denominator)
    (mode : RoundingMode) : apportion values (factor * denominator) denominator mode =
      values.mapM fun v => checkDigits (v * factor) := by
  rw [apportion_of_length_le digits short adds_up hn hd nonzero]
  simp only [cast_mul_self_div nonzero, whole_ofRatio_mul_self nonzero,
    RoundingMode.roundDigits_intCast, mapM_checkDigits]
  split_ifs with fits products products
  · have closed : gap (values.map (· * factor)) = 0 := by rw [gap_map_mul, adds_up, zero_mul]
    have hrounded : roundedApart values (factor * denominator) denominator mode =
        values.map (· * factor) :=
      List.map_congr_left fun v _ => by
        rw [cast_mul_self_div nonzero, RoundingMode.round_intCast]
    rw [ok_bind, closed, ← hrounded, ← map_value_ratioShares]
    rfl
  · rfl
  · refine absurd (fun v hv => ?_) fits
    have hword := (products v hv).fitsWord
    unfold FitsWord at hword
    exact lt_of_le_of_lt (by omega : _ ≤ 0x8000000000000000) (by decide)
  · rfl

end Multiples

end DecimalMoney
