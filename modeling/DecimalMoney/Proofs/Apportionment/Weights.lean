import DecimalMoney.Proofs.Apportionment.Short
import DecimalMoney.Proofs.Binary64.Arithmetic

/-!
# Weights

The weight of a candidate is its relative rounding error as a binary float.  Such a weight may come
out as zero: a remainder so near to the divisor that both are the same float leaves no error, and
the number is never picked.  A rounding error of at least one sixteenth has a positive weight.  Ten
errors below one sixteenth do not make up a unit, so in an apportionment of at most ten numbers
there are still as many positive weights as missing units.

## Main results

* `DecimalMoney.relativeDeviation_round_pos` : an error that is not small has a positive weight.
* `DecimalMoney.natAbs_gap_le_card_weighty` : there are enough positive weights.
* `DecimalMoney.apportion_ne_sumMismatch` : so the sums never mismatch.
-/

namespace DecimalMoney

open Binary64 TruncatedQuotient

/-! ### Fractions as floats -/

theorem wordToFloat_zero : wordToFloat 0 = 0 := rfl

/-- A positive word as a float. -/
theorem exists_represents_wordToFloat {n : Nat} (positive : 0 < n) (word : n < UInt64.size) :
    ∃ x : Normal, Represents (wordToFloat n) x ∧ x.Moderate ∧ x.Approximates n := by
  have toNat : (UInt64.ofNat n).toNat = n := UInt64.toNat_ofNat_of_lt' word
  obtain ⟨x, hx, moderate, near⟩ := exists_represents_word (by rwa [toNat])
  rw [toNat] at near
  exact ⟨x, hx, moderate, near⟩

/-- A fraction below one as a float.  It stays below one if it is not too near to it. -/
theorem exists_represents_fraction {r d : Nat} (positive : 0 < r) (less : r < d)
    (word : d < UInt64.size) :
    ∃ x : Normal, Represents (wordToFloat r / wordToFloat d) x ∧ x.Moderate ∧ x.value ≤ 2 ∧
      (16 * r ≤ 15 * d → x.value ≤ 31 / 32) := by
  obtain ⟨a, ha, moderateA, nearA⟩ := exists_represents_wordToFloat positive (less.trans word)
  obtain ⟨b, hb, moderateB, nearB⟩ := exists_represents_wordToFloat (positive.trans less) word
  obtain ⟨x, hx, near⟩ := exists_represents_div moderateA moderateB ha hb
  have hr : (1 : ℚ) ≤ r := by exact_mod_cast positive
  have hd : (r : ℚ) < d := by exact_mod_cast less
  have hword : (d : ℚ) < 0x10000000000000000 := by exact_mod_cast word
  obtain ⟨lowerA, upperA⟩ := nearA.bounds
  obtain ⟨lowerB, upperB⟩ := nearB.bounds
  obtain ⟨_, upperX⟩ := near.bounds
  have lower : 1 / 0x100000000000000000 ≤ a.value / b.value := by
    rw [le_div_iff₀ b.value_pos]
    linarith
  have upper : a.value / b.value ≤ 3 / 2 := by
    rw [div_le_iff₀ b.value_pos]
    linarith
  refine ⟨x, hx, near.moderate lower (by linarith), by linarith, fun apart => ?_⟩
  have hq : (16 * r : ℚ) ≤ 15 * d := by exact_mod_cast apart
  have below : a.value / b.value ≤ 957 / 1000 := by
    rw [div_le_iff₀ b.value_pos]
    linarith
  linarith

section Quotient

variable {q : TruncatedQuotient} (inexact : 0 < q.remainder) (less : q.remainder < q.divisor)
  (word : q.divisor < UInt64.size) (fits : q.whole < UInt64.size)

include inexact less word fits

/-- The magnitude of an inexact quotient as a float. -/
theorem exists_represents_toFloat : ∃ x : Normal, Represents q.toFloat x ∧ x.Moderate := by
  obtain ⟨x, hx, moderate, small, _⟩ := exists_represents_fraction inexact less word
  rw [TruncatedQuotient.toFloat]
  rcases Nat.eq_zero_or_pos q.whole with none | some
  · rw [none, wordToFloat_zero]
    exact ⟨x, hx.zero_add, moderate⟩
  · obtain ⟨w, hw, moderateW, nearW⟩ := exists_represents_wordToFloat some fits
    obtain ⟨sum, hsum, near⟩ := exists_represents_add moderateW moderate hw hx
    have lower : (1 : ℚ) ≤ q.whole := by exact_mod_cast some
    have upper : (q.whole : ℚ) < 0x10000000000000000 := by exact_mod_cast fits
    have positive := x.value_pos
    obtain ⟨lowerW, upperW⟩ := nearW.bounds
    exact ⟨sum, hsum, near.moderate (by linarith) (by linarith)⟩

/-- The relative error of an inexact quotient is positive as a float, if the quotient was rounded
toward zero or if it is not too near to the next integer. -/
theorem relativeDeviation_pos {rounded : Int}
    (apart : rounded.natAbs ≠ q.whole → 16 * q.remainder ≤ 15 * q.divisor) :
    0 < relativeDeviation q rounded := by
  obtain ⟨m, hm, moderateM⟩ := exists_represents_toFloat inexact less word fits
  obtain ⟨x, hx, moderateX, _, small⟩ := exists_represents_fraction inexact less word
  rw [relativeDeviation]
  split_ifs with zero kept
  · exact hm.pos
  · obtain ⟨ratio, hratio, _⟩ := exists_represents_div moderateX moderateM hx hm
    exact hratio.pos
  · have below := small (apart kept)
    obtain ⟨y, hy, near⟩ := exists_represents_sub Normal.moderate_one moderateX represents_one hx
      (by rw [Normal.value_one]; linarith)
    have positive := x.value_pos
    rw [Normal.value_one] at near
    have moderateY : y.Moderate := near.moderate (by linarith) (by linarith)
    obtain ⟨ratio, hratio, _⟩ := exists_represents_div moderateY moderateM hy hm
    exact hratio.pos

end Quotient

/-! ### Rounding errors that are not small -/

/-- Where the magnitude moves to the next integer, the error is what was missing to it. -/
theorem abs_value_sub_round_of_ne {q : TruncatedQuotient} (less : q.remainder < q.divisor)
    {mode : RoundingMode} (moved : (mode.round q.value).natAbs ≠ q.whole) :
    |q.value - mode.round q.value| = 1 - q.remainder / q.divisor := by
  have magnitude : q.roundedMagnitude mode = q.whole + 1 := by
    rw [← signed_roundedMagnitude less, natAbs_signed] at moved
    exact (q.roundedMagnitude_eq mode).resolve_left moved
  have fraction : (q.remainder / q.divisor : ℚ) ≤ 1 :=
    div_le_one_of_le₀ (by exact_mod_cast less.le) (Nat.cast_nonneg _)
  have factor : |signFactor q.negative| = 1 := by cases q.negative <;> simp [signFactor]
  rw [value_sub_round less, abs_mul, factor, one_mul, magnitude, TruncatedQuotient.magnitude]
  push_cast
  rw [add_sub_add_left_eq_sub, abs_sub_comm, abs_of_nonneg (sub_nonneg.2 fraction)]

/-- **A rounding error of at least one sixteenth has a positive weight.** -/
theorem relativeDeviation_round_pos {q : TruncatedQuotient} (less : q.remainder < q.divisor)
    (word : q.divisor < UInt64.size) (fits : q.whole < UInt64.size) {mode : RoundingMode}
    (large : 1 / 16 ≤ |q.value - mode.round q.value|) :
    0 < relativeDeviation q (mode.round q.value) := by
  have divisor : (0 : ℚ) < q.divisor := by exact_mod_cast Nat.zero_lt_of_lt less
  have inexact : 0 < q.remainder := by
    refine Nat.pos_of_ne_zero fun exact => ?_
    obtain ⟨n, hn⟩ := Int.fract_eq_zero_iff.1 ((fract_value_eq_zero_iff less).2 exact)
    rw [← hn, RoundingMode.round_intCast, sub_self, abs_zero] at large
    norm_num at large
  refine relativeDeviation_pos inexact less word fits fun moved => ?_
  rw [abs_value_sub_round_of_ne less moved, le_sub_comm, div_le_iff₀ divisor] at large
  have hlarge : (16 * q.remainder : ℚ) ≤ 15 * q.divisor := by linarith
  exact_mod_cast hlarge

/-- A smaller error may have none: this remainder and its divisor are the same float. -/
example : ¬0 < relativeDeviation ⟨false, 0, 0xfffffffffffffff, 0x1000000000000000⟩ 1 := by
  decide +kernel

/-! ### Enough positive weights -/

section Enough

variable {values : List Int} {numerator denominator : Int} {mode : RoundingMode}
  (hd : FitsWord denominator) (nonzero : denominator ≠ 0)

include hd nonzero

section Fits

variable (fits : ∀ v ∈ values, (ofRatio v numerator denominator).whole < UInt64.size)

include fits

/-- A number that contributes at least one sixteenth to what is missing has a positive weight. -/
theorem mem_weighty_of_le_contribution {i : Nat} (inside : i < values.length)
    (large : 1 / 16 ≤ contribution values numerator denominator mode i) :
    i ∈ weighty (ratioShares values numerator denominator mode) := by
  have member : i ∈ correcting values numerator denominator mode :=
    (mem_correcting_iff nonzero).2 ⟨inside, lt_of_lt_of_le (by norm_num) large⟩
  have missing : gap (roundedApart values numerator denominator mode) ≠ 0 := by
    intro closed
    rw [contribution, closed, Int.sign_zero, zero_mul, Int.cast_zero, mul_zero] at large
    norm_num at large
  have word : (ofRatio (values.getD i 0) numerator denominator).divisor < UInt64.size := by
    unfold FitsWord at hd
    exact lt_of_le_of_lt (by change denominator.natAbs ≤ 0x8000000000000000; omega) (by decide)
  have error : 1 / 16 ≤ |errorAt values numerator denominator mode i| :=
    large.trans (contribution_le_abs_errorAt missing i)
  rw [errorAt, getD_roundedApart inside, ← value_ofRatio _ _ nonzero] at error
  refine mem_weighty.2 ⟨_, _, getElem?_ratioShares inside numerator denominator mode,
    if_pos (Finset.mem_filter.1 member).2, ?_⟩
  rw [getD_roundedApart inside, ← value_ofRatio _ _ nonzero]
  exact relativeDeviation_round_pos (remainder_ofRatio_lt _ _ nonzero) word
    (fits _ (by rw [List.getD_eq_getElem _ _ inside]; exact List.getElem_mem inside)) error

omit hd nonzero fits in
/-- Of at most ten numbers as many contribute at least one sixteenth as units are missing: what the
others contribute does not make up a unit. -/
theorem natAbs_gap_le_card_filter (short : values.length ≤ 10) (adds_up : gap values = 0) :
    (gap (roundedApart values numerator denominator mode)).natAbs ≤
      ((Finset.range values.length).filter fun i =>
        1 / 16 ≤ contribution values numerator denominator mode i).card := by
  by_cases missing : gap (roundedApart values numerator denominator mode) = 0
  · rw [missing]
    exact Nat.zero_le _
  set large := (Finset.range values.length).filter fun i =>
    1 / 16 ≤ contribution values numerator denominator mode i
  have bound : ∀ i ∈ Finset.range values.length,
      contribution values numerator denominator mode i ≤
        (if 1 / 16 ≤ contribution values numerator denominator mode i then 1 else 0) + 1 / 16 := by
    intro i hi
    have small := contribution_lt_one missing (Finset.mem_range.1 hi)
    split_ifs <;> linarith
  have hlength : (values.length : ℚ) ≤ 10 := by exact_mod_cast short
  have units : ((gap (roundedApart values numerator denominator mode)).natAbs : ℚ) <
      large.card + 1 := by
    calc ((gap (roundedApart values numerator denominator mode)).natAbs : ℚ)
        = ∑ i ∈ Finset.range values.length, contribution values numerator denominator mode i :=
          natAbs_gap_eq_sum_contribution adds_up numerator denominator mode
      _ ≤ ∑ i ∈ Finset.range values.length,
            ((if 1 / 16 ≤ contribution values numerator denominator mode i then 1 else 0) + 1 / 16) :=
          Finset.sum_le_sum bound
      _ = large.card + values.length / 16 := by
          rw [Finset.sum_add_distrib, Finset.sum_boole, Finset.sum_const, Finset.card_range,
            nsmul_eq_mul, mul_one_div]
      _ < large.card + 1 := by linarith
  exact Nat.lt_succ_iff.1 (by exact_mod_cast units)

/-- **There are enough positive weights** for the units that a rounding of at most ten numbers
leaves missing. -/
theorem natAbs_gap_le_card_weighty (short : values.length ≤ 10) (adds_up : gap values = 0)
    (mode : RoundingMode) :
    (gap (roundedApart values numerator denominator mode)).natAbs ≤
      (weighty (ratioShares values numerator denominator mode)).card := by
  refine (natAbs_gap_le_card_filter short adds_up).trans (Finset.card_le_card fun i hi => ?_)
  obtain ⟨inside, large⟩ := Finset.mem_filter.1 hi
  exact mem_weighty_of_le_contribution hd nonzero fits (Finset.mem_range.1 inside) large

end Fits

/-- **The sums of few numbers never mismatch.** At most ten numbers of eighteen digits that add up are
apportioned, or they overflow, or they must not be rounded; the adjustment finds a number for every
unit that it has to take up. -/
theorem apportion_ne_sumMismatch (digits : ∀ v ∈ values, FitsDigits v) (short : values.length ≤ 10)
    (adds_up : gap values = 0) (hn : FitsWord numerator) (mode : RoundingMode) (total sum : Int) :
    apportion values numerator denominator mode ≠ .error (.sumMismatch total sum) := by
  rw [apportion_of_length_le digits short adds_up hn hd nonzero]
  split_ifs with fits
  · intro mismatch
    cases hsingle : values.mapM fun v : Int =>
        mode.roundDigits ((v : ℚ) * numerator / denominator) with
    | error failure =>
      rw [hsingle] at mismatch
      cases mismatch
      obtain ⟨v, _, hv⟩ := exists_mem_of_mapM_error hsingle
      unfold RoundingMode.roundDigits at hv
      split_ifs at hv <;> cases hv
    | ok rounded =>
      obtain ⟨rfl, _⟩ := eq_roundedApart_of_mapM_roundDigits hsingle
      rw [hsingle, ok_bind] at mismatch
      have enough := natAbs_gap_le_card_weighty hd nonzero fits short adds_up mode
      rcases settlesOrOverflows_of_le_card_weighty enough with ⟨_, _, hsettle, _, _⟩ |
        ⟨_, _, _, _, _, _, _, hsettle⟩ <;> rw [hsettle] at mismatch <;> cases mismatch
  · rintro ⟨⟩

end Enough

end DecimalMoney
