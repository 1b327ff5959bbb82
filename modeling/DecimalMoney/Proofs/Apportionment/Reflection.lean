import DecimalMoney.Proofs.Apportionment.Weights

/-!
# Apportionments of opposite numbers

The opposite numbers, apportioned by the reflected mode, are the opposite of what the numbers are
apportioned to.  Every single number is rounded to the opposite, so that the opposite is missing and
every number is asked to move the other way.  Its weight stays the same, and so the two adjustments
pick the same positions in the same order.  An adjustment that runs out of candidates would name its
total, which is not the same for both; of at most ten numbers none runs out of them.

## Main definitions

* `DecimalMoney.Share.negate` : the opposite share.

## Main results

* `DecimalMoney.settle_map_negate` : the adjustment of opposite shares.
* `DecimalMoney.ratioShares_map_neg` : the shares of opposite numbers.
* `DecimalMoney.apportion_map_neg` : the apportionment of opposite numbers.
-/

namespace DecimalMoney

open TruncatedQuotient

/-! ### Opposite shares -/

/-- The opposite number with the same weight. -/
def Share.negate (share : Share) : Share := ⟨-share.value, share.weight⟩

@[simp] theorem valueAt_map_negate (shares : List Share) (index : Nat) :
    valueAt (shares.map Share.negate) index = -valueAt shares index := by
  unfold valueAt
  rw [List.getElem?_map]
  cases shares[index]? <;> rfl

/-- The search looks at the weights alone. -/
@[simp] theorem heaviest_map_negate (shares : List Share) :
    heaviest (shares.map Share.negate) = heaviest shares := by
  rw [heaviest, heaviest, List.zipIdx_map, List.foldl_map]
  rfl

theorem map_value_map_negate (shares : List Share) :
    (shares.map Share.negate).map Share.value = (shares.map Share.value).map Neg.neg := by
  rw [List.map_map, List.map_map]
  rfl

/-- **The adjustment of opposite shares** in the opposite direction picks the same positions, if it
does not run out of them. -/
theorem settle_map_negate {adjustment : Int} {units : Nat} {shares : List Share}
    (enough : units ≤ (weighty shares).card) :
    settle (-adjustment) units (shares.map Share.negate) =
      (settle adjustment units shares).map (List.map Share.negate) := by
  induction units generalizing shares with
  | zero => rfl
  | succ units ih =>
    obtain ⟨index, hpicked⟩ := exists_heaviest (Finset.card_pos.1 (Nat.zero_lt_of_lt enough))
    have step : valueAt (shares.map Share.negate) index + -adjustment * direction index =
        -(valueAt shares index + adjustment * direction index) := by
      rw [valueAt_map_negate]
      ring
    rw [settle_succ_of_heaviest (by rw [heaviest_map_negate, hpicked]),
      settle_succ_of_heaviest hpicked, step, if_congr fitsDigits_neg_iff rfl rfl]
    split_ifs with fits
    · have fewer := card_weighty_le shares index
        ⟨valueAt shares index + adjustment * direction index, none⟩
      rw [← ih (Nat.le_of_succ_le_succ (enough.trans fewer)), List.map_set]
      rfl
    · rfl

/-! ### Shares of opposite numbers -/

section Ratio

variable {v numerator denominator : Int} (nonzero : denominator ≠ 0)

include nonzero

theorem value_ofRatio_neg :
    (ofRatio (-v) numerator denominator).value = -(ofRatio v numerator denominator).value := by
  rw [value_ofRatio _ _ nonzero, value_ofRatio _ _ nonzero]
  push_cast
  ring

theorem reflect_round_ofRatio_neg (mode : RoundingMode) :
    mode.reflect.round (ofRatio (-v) numerator denominator).value =
      -mode.round (ofRatio v numerator denominator).value := by
  rw [value_ofRatio_neg nonzero, RoundingMode.round_neg, RoundingMode.reflect_reflect]

/-- The rounding error of the opposite number points the other way. -/
theorem deviation_ofRatio_neg (mode : RoundingMode) :
    deviation (ofRatio (-v) numerator denominator)
        (-mode.round (ofRatio v numerator denominator).value) =
      -deviation (ofRatio v numerator denominator)
        (mode.round (ofRatio v numerator denominator).value) := by
  rw [← reflect_round_ofRatio_neg nonzero, deviation_round (remainder_ofRatio_lt _ _ nonzero),
    deviation_round (remainder_ofRatio_lt _ _ nonzero), reflect_round_ofRatio_neg nonzero,
    value_ofRatio_neg nonzero]
  push_cast
  rw [neg_sub_neg, ← neg_sub, Left.sign_neg, SignType.coe_neg]

omit nonzero in
/-- It has the same size. -/
theorem relativeDeviation_ofRatio_neg (rounded : Int) :
    relativeDeviation (ofRatio (-v) numerator denominator) (-rounded) =
      relativeDeviation (ofRatio v numerator denominator) rounded := by
  have magnitude : ofRatio (-v) numerator denominator =
      { ofRatio v numerator denominator with
        negative := (ofRatio (-v) numerator denominator).negative } := by
    simp only [ofRatio, Int.natAbs_neg]
  rw [relativeDeviation, relativeDeviation, if_congr neg_eq_zero rfl rfl, Int.natAbs_neg, magnitude]
  rfl

/-- So the opposite share is asked to move the other way, with the same weight. -/
theorem ofRounded_ofRatio_neg (adjustment : Int) (index : Nat) (mode : RoundingMode) :
    Share.ofRounded (-adjustment) index (ofRatio (-v) numerator denominator)
        (-mode.round (ofRatio v numerator denominator).value) =
      (Share.ofRounded adjustment index (ofRatio v numerator denominator)
        (mode.round (ofRatio v numerator denominator).value)).negate := by
  simp only [Share.ofRounded, Share.negate, deviation_ofRatio_neg nonzero,
    relativeDeviation_ofRatio_neg, neg_mul_neg]

end Ratio

section Values

variable {values : List Int} {numerator denominator : Int} {mode : RoundingMode}

/-- The opposite numbers are rounded to the opposite. -/
theorem roundedApart_map_neg : roundedApart (values.map Neg.neg) numerator denominator mode.reflect =
    (roundedApart values numerator denominator mode).map Neg.neg := by
  rw [roundedApart, roundedApart, List.map_map, List.map_map]
  refine List.map_congr_left fun v _ => ?_
  rw [Function.comp_apply, Function.comp_apply, Int.cast_neg, neg_mul, neg_div,
    RoundingMode.round_neg, RoundingMode.reflect_reflect]

theorem gap_map_neg (values : List Int) : gap (values.map Neg.neg) = -gap values := by
  rw [← mul_neg_one, ← gap_map_mul]
  simp only [mul_neg_one]

/-- **The shares of opposite numbers are the opposite shares.** -/
theorem ratioShares_map_neg (nonzero : denominator ≠ 0) :
    ratioShares (values.map Neg.neg) numerator denominator mode.reflect =
      (ratioShares values numerator denominator mode).map Share.negate := by
  refine List.ext_getElem? fun i => ?_
  rw [getElem?_ratioShares_eq_map, List.getElem?_map, List.getElem?_map,
    getElem?_ratioShares_eq_map, roundedApart_map_neg, gap_map_neg, Int.sign_neg]
  simp only [← value_ofRatio _ _ nonzero]
  cases values[i]? with
  | none => rfl
  | some v =>
    refine congrArg some (Eq.trans ?_ (ofRounded_ofRatio_neg nonzero _ i mode))
    rw [← reflect_round_ofRatio_neg nonzero]

/-! ### The apportionment -/

/-- **Opposite numbers are apportioned to the opposite** by the reflected mode, or both
apportionments fail alike, if there are at most ten numbers and they add up. -/
theorem apportion_map_neg (digits : ∀ v ∈ values, FitsDigits v) (short : values.length ≤ 10)
    (adds_up : gap values = 0) (hn : FitsWord numerator) (hd : FitsWord denominator)
    (nonzero : denominator ≠ 0) (mode : RoundingMode) :
    apportion (values.map Neg.neg) numerator denominator mode.reflect =
      (apportion values numerator denominator mode).map (List.map Neg.neg) := by
  have opposite : (∀ v ∈ values.map Neg.neg, FitsDigits v) ∧ (values.map Neg.neg).length ≤ 10 ∧
      gap (values.map Neg.neg) = 0 := by
    rw [List.forall_mem_map, List.length_map, gap_map_neg, adds_up]
    exact ⟨fun v hv => (digits v hv).neg, short, rfl⟩
  have whole (v : Int) : (ofRatio (-v) numerator denominator).whole =
      (ofRatio v numerator denominator).whole := by rw [ofRatio, ofRatio, Int.natAbs_neg]
  have hrounded : ((values.map Neg.neg).mapM fun v : Int =>
      mode.reflect.roundDigits ((v : ℚ) * numerator / denominator)) =
        (values.mapM fun v : Int => mode.roundDigits ((v : ℚ) * numerator / denominator)).map
          (List.map Neg.neg) := by
    rw [List.mapM_map, ← mapM_map_right]
    refine mapM_congr_left fun v _ => ?_
    rw [Function.comp_apply, Int.cast_neg, neg_mul, neg_div, RoundingMode.roundDigits_reflect_neg]
  rw [apportion_of_length_le opposite.1 opposite.2.1 opposite.2.2 hn hd nonzero,
    apportion_of_length_le digits short adds_up hn hd nonzero, hrounded]
  simp only [List.forall_mem_map, whole]
  split_ifs with fits
  · cases hsingle : values.mapM fun v : Int =>
        mode.roundDigits ((v : ℚ) * numerator / denominator) with
    | error failure => rfl
    | ok rounded =>
      obtain ⟨rfl, _⟩ := eq_roundedApart_of_mapM_roundDigits hsingle
      have enough := natAbs_gap_le_card_weighty hd nonzero fits short adds_up mode
      simp only [Except.map, ok_bind]
      rw [gap_map_neg, Int.sign_neg, Int.natAbs_neg, ratioShares_map_neg nonzero,
        settle_map_negate enough]
      cases settle (gap (roundedApart values numerator denominator mode)).sign
          (gap (roundedApart values numerator denominator mode)).natAbs
          (ratioShares values numerator denominator mode) with
      | error failure => rfl
      | ok settled => exact congrArg Except.ok (map_value_map_negate settled)
  · rfl

end Values

end DecimalMoney
