import DecimalMoney.Proofs.Apportionment.Apportioned

/-!
# Candidates suffice

Numbers that add up are multiplied by a ratio and rounded on their own.  The units that are missing
then are the rounding errors themselves, added up with the sign of their position.  Every error is
less than one unit, so more numbers than units are missing have an error that points the way in
which the numbers have to move.  The adjustment takes one of these numbers for every unit, and so it
never finds itself without one.

## Main definitions

* `DecimalMoney.candidates` : the positions that may be picked.
* `DecimalMoney.weighty` : those of them with a weight above zero.
* `DecimalMoney.PositiveWeights` : every candidate weighs something.
* `DecimalMoney.SettlesOrOverflows` : how an adjustment may end.
* `DecimalMoney.errorAt`, `DecimalMoney.contribution` : the rounding error at a position, and what
  it contributes to the missing units.
* `DecimalMoney.correcting` : the positions where the error points the right way.

## Main results

* `DecimalMoney.exists_heaviest` : where a weight is positive, a share is picked.
* `DecimalMoney.settlesOrOverflows_of_le_card_weighty` : an adjustment with enough positive weights
  takes up all units.
* `DecimalMoney.natAbs_gap_lt_card_correcting` : there are more candidates than missing units.
* `DecimalMoney.apportion_finds_candidates` : an apportionment never runs out of candidates.
-/

namespace DecimalMoney

open TruncatedQuotient

/-! ### Candidates of a list of shares -/

/-- The positions of the candidates. -/
def candidates (shares : List Share) : Finset Nat :=
  (Finset.range shares.length).filter fun i => (shares[i]?.bind Share.weight).isSome

theorem mem_candidates {shares : List Share} {i : Nat} :
    i ∈ candidates shares ↔ Candidate shares i := by
  have hsome : (shares[i]?.bind Share.weight).isSome ↔ Candidate shares i := by
    cases hshare : shares[i]? <;> simp [Candidate, hshare]
  rw [candidates, Finset.mem_filter, hsome, Finset.mem_range]
  exact ⟨And.right, fun h => ⟨h.lt_length, h⟩⟩

/-- The positions of the shares with a weight above zero. -/
def weighty (shares : List Share) : Finset Nat :=
  (Finset.range shares.length).filter fun i => ∃ weight ∈ shares[i]?.bind Share.weight, 0 < weight

theorem mem_weighty {shares : List Share} {i : Nat} : i ∈ weighty shares ↔
    ∃ share weight, shares[i]? = some share ∧ share.weight = some weight ∧ 0 < weight := by
  rw [weighty, Finset.mem_filter, Finset.mem_range]
  constructor
  · rintro ⟨_, weight, hweight, positive⟩
    obtain ⟨share, hshare, hweight⟩ := Option.bind_eq_some_iff.1 hweight
    exact ⟨share, weight, hshare, hweight, positive⟩
  · rintro ⟨share, weight, hshare, hweight, positive⟩
    refine ⟨(List.getElem?_eq_some_iff.1 hshare).1, weight, ?_, positive⟩
    rw [hshare]
    exact hweight

/-- An adjusted share takes at most one positive weight away. -/
theorem card_weighty_le (shares : List Share) (index : Nat) (share : Share) :
    (weighty shares).card ≤ (weighty (shares.set index share)).card + 1 := by
  have kept : (weighty shares).erase index ⊆ weighty (shares.set index share) := by
    intro i hi
    obtain ⟨other, hi⟩ := Finset.mem_erase.1 hi
    rw [mem_weighty, List.getElem?_set_ne other.symm]
    exact mem_weighty.1 hi
  have hcard := Finset.card_le_card kept
  have herase := Finset.pred_card_le_card_erase (s := weighty shares) (a := index)
  omega

/-- Every candidate has a weight above zero. -/
def PositiveWeights (shares : List Share) : Prop :=
  ∀ share ∈ shares, ∀ weight ∈ share.weight, 0 < weight

theorem PositiveWeights.candidates_subset {shares : List Share} (h : PositiveWeights shares) :
    candidates shares ⊆ weighty shares := by
  intro i hi
  obtain ⟨share, hshare, hweight⟩ := mem_candidates.1 hi
  obtain ⟨weight, hweight⟩ := Option.isSome_iff_exists.1 hweight
  exact mem_weighty.2 ⟨share, weight, hshare, hweight,
    h share (List.mem_of_getElem? hshare) weight hweight⟩

/-! ### The search -/

/-- The search does not lose what it has found. -/
private theorem isSome_foldl_heavier {entries : List (Share × Nat)} {best : Option Nat × Float}
    (h : best.1.isSome) : (entries.foldl heavier best).1.isSome := by
  induction entries generalizing best with
  | nil => exact h
  | cons entry entries ih =>
    refine ih ?_
    unfold heavier
    split
    · split_ifs
      · rfl
      · exact h
    · exact h

/-- The search finds something where a positive weight is. -/
private theorem isSome_foldl_heavier_of_mem {entries : List (Share × Nat)}
    (h : ∃ entry ∈ entries, ∃ weight ∈ entry.1.weight, 0 < weight) :
    (entries.foldl heavier (none, 0)).1.isSome := by
  induction entries with
  | nil => simp at h
  | cons entry entries ih =>
    rw [List.foldl_cons]
    by_cases above : ∃ weight ∈ entry.1.weight, 0 < weight
    · obtain ⟨weight, hweight, positive⟩ := above
      rw [Option.mem_def] at hweight
      refine isSome_foldl_heavier ?_
      simp [heavier, hweight, positive]
    · have skipped : heavier (none, 0) entry = (none, 0) := by
        unfold heavier
        cases hweight : entry.1.weight with
        | none => rfl
        | some weight => exact if_neg fun positive => above ⟨weight, hweight, positive⟩
      rw [skipped]
      exact ih (((List.exists_mem_cons_iff _ _ _).1 h).resolve_left above)

/-- **Where a weight is positive, a share is picked.** -/
theorem exists_heaviest {shares : List Share} (h : (weighty shares).Nonempty) :
    ∃ index, heaviest shares = some index := by
  obtain ⟨i, hi⟩ := h
  obtain ⟨share, weight, hshare, hweight, positive⟩ := mem_weighty.1 hi
  exact Option.isSome_iff_exists.1 (isSome_foldl_heavier_of_mem
    ⟨(share, i), List.mk_mem_zipIdx_iff_getElem?.2 hshare, weight, hweight, positive⟩)

/-! ### The adjustment -/

/-- One unit of the adjustment, where a share is picked. -/
theorem settle_succ_of_heaviest {shares : List Share} {index : Nat}
    (h : heaviest shares = some index) (adjustment : Int) (units : Nat) :
    settle adjustment (units + 1) shares =
      if FitsDigits (valueAt shares index + adjustment * direction index) then
        settle adjustment units
          (shares.set index ⟨valueAt shares index + adjustment * direction index, none⟩)
      else .error .overflow := by
  rw [settle, h]
  simp only [checkDigits]
  split_ifs <;> rfl

/-- The adjustment ends after as many rounds as there are units, with as many shares moved; or
earlier and as an overflow, where the share that is picked would get more than eighteen digits. -/
def SettlesOrOverflows (adjustment : Int) (units : Nat) (shares : List Share) : Prop :=
  (∃ moved settled, settle adjustment units shares = .ok settled ∧ moved.card = units ∧
    Settled adjustment moved shares settled) ∨
  ∃ rounds < units, ∃ current index, settle adjustment rounds shares = .ok current ∧
    heaviest current = some index ∧
    ¬FitsDigits (valueAt current index + adjustment * direction index) ∧
    settle adjustment units shares = .error .overflow

/-- **An adjustment with enough positive weights takes up all units**, unless it overflows. -/
theorem settlesOrOverflows_of_le_card_weighty {adjustment : Int} {units : Nat} {shares : List Share}
    (enough : units ≤ (weighty shares).card) : SettlesOrOverflows adjustment units shares := by
  induction units generalizing shares with
  | zero => exact .inl ⟨∅, shares, rfl, rfl, Settled.refl adjustment shares⟩
  | succ units ih =>
    obtain ⟨index, hpicked⟩ := exists_heaviest (Finset.card_pos.1 (Nat.zero_lt_of_lt enough))
    by_cases hdigits : FitsDigits (valueAt shares index + adjustment * direction index)
    · have hstep : ∀ rounds, settle adjustment (rounds + 1) shares = settle adjustment rounds
          (shares.set index ⟨valueAt shares index + adjustment * direction index, none⟩) := by
        intro rounds
        rw [settle_succ_of_heaviest hpicked, if_pos hdigits]
      have fewer := card_weighty_le shares index
        ⟨valueAt shares index + adjustment * direction index, none⟩
      rcases ih (Nat.le_of_succ_le_succ (enough.trans fewer)) with ⟨_, settled, hsettle, _, _⟩ |
        ⟨rounds, early, current, next, hcurrent, hnext, large, overflow⟩
      · rw [← hstep] at hsettle
        obtain ⟨moved, hcard, hsettled⟩ := exists_settled_of_settle hsettle
        exact .inl ⟨moved, settled, hsettle, hcard, hsettled⟩
      · rw [← hstep] at hcurrent overflow
        exact .inr ⟨rounds + 1, by omega, current, next, hcurrent, hnext, large, overflow⟩
    · have overflow : settle adjustment (units + 1) shares = .error .overflow := by
        rw [settle_succ_of_heaviest hpicked, if_neg hdigits]
      exact .inr ⟨0, by omega, shares, index, rfl, hpicked, hdigits, overflow⟩

/-- So does one with enough candidates, if all of them have positive weights. -/
theorem settlesOrOverflows {adjustment : Int} {units : Nat} {shares : List Share}
    (positive : PositiveWeights shares) (enough : units ≤ (candidates shares).card) :
    SettlesOrOverflows adjustment units shares :=
  settlesOrOverflows_of_le_card_weighty
    (enough.trans (Finset.card_le_card positive.candidates_subset))

/-! ### Rounding errors by position -/

section Errors

variable {values : List Int} {numerator denominator : Int} {mode : RoundingMode}

/-- What rounding has taken from the number at a position. -/
def errorAt (values : List Int) (numerator denominator : Int) (mode : RoundingMode) (i : Nat) : ℚ :=
  (values.getD i 0 : ℚ) * numerator / denominator -
    (roundedApart values numerator denominator mode).getD i 0

/-- What the error at a position contributes to the number of missing units. -/
def contribution (values : List Int) (numerator denominator : Int) (mode : RoundingMode) (i : Nat) :
    ℚ :=
  errorAt values numerator denominator mode i *
    ((gap (roundedApart values numerator denominator mode)).sign * direction i : Int)

/-- The positions of the numbers that come nearer to their exact products when they are moved so
that less is missing. -/
def correcting (values : List Int) (numerator denominator : Int) (mode : RoundingMode) :
    Finset Nat :=
  let rounded := roundedApart values numerator denominator mode
  (Finset.range values.length).filter fun i =>
    0 < deviation (ofRatio (values.getD i 0) numerator denominator) (rounded.getD i 0) *
      (gap rounded).sign * direction i

/-- **The gap is the sum of the errors**, each with the sign of its position, if the numbers
themselves add up. -/
theorem cast_gap_eq_sum_errorAt (adds_up : gap values = 0) (numerator denominator : Int)
    (mode : RoundingMode) :
    (gap (roundedApart values numerator denominator mode) : ℚ) =
      ∑ i ∈ Finset.range values.length,
        direction i * errorAt values numerator denominator mode i := by
  have hlength : (roundedApart values numerator denominator mode).length = values.length := by
    rw [roundedApart, List.length_map]
  have hvalues : ∑ i ∈ Finset.range values.length, (direction i : ℚ) * values.getD i 0 = 0 := by
    have hgap := gap_eq_sum_direction values
    rw [adds_up, zero_eq_neg] at hgap
    exact_mod_cast hgap
  have hexact : ∑ i ∈ Finset.range values.length,
      (direction i : ℚ) * (values.getD i 0 * numerator / denominator) = 0 := by
    calc _ = (∑ i ∈ Finset.range values.length, (direction i : ℚ) * values.getD i 0) *
          (numerator / denominator) := by
          rw [Finset.sum_mul]
          exact Finset.sum_congr rfl fun i _ => by ring
      _ = 0 := by rw [hvalues, zero_mul]
  rw [gap_eq_sum_direction, hlength]
  simp only [errorAt, mul_sub, Finset.sum_sub_distrib, hexact, zero_sub]
  push_cast
  rfl

/-- The number of missing units is what all positions contribute. -/
theorem natAbs_gap_eq_sum_contribution (adds_up : gap values = 0) (numerator denominator : Int)
    (mode : RoundingMode) :
    ((gap (roundedApart values numerator denominator mode)).natAbs : ℚ) =
      ∑ i ∈ Finset.range values.length, contribution values numerator denominator mode i := by
  have hsign (g : Int) : (g.natAbs : ℚ) = g.sign * g := by
    rw [← Int.cast_natCast, ← Int.sign_mul_self_eq_natAbs]
    push_cast
    rfl
  rw [hsign, cast_gap_eq_sum_errorAt adds_up, Finset.mul_sum]
  refine Finset.sum_congr rfl fun i _ => ?_
  rw [contribution]
  push_cast
  ring

/-- A position contributes no more than the size of its error. -/
theorem contribution_le_abs_errorAt
    (missing : gap (roundedApart values numerator denominator mode) ≠ 0) (i : Nat) :
    contribution values numerator denominator mode i ≤
      |errorAt values numerator denominator mode i| := by
  rw [contribution]
  rcases mul_self_eq_one_iff.1 (step_mul_self missing i) with one | one <;> rw [one]
  · rw [Int.cast_one, mul_one]
    exact le_abs_self _
  · rw [Int.cast_neg, Int.cast_one, mul_neg_one]
    exact neg_le_abs _

/-- No position contributes a whole unit. -/
theorem contribution_lt_one (missing : gap (roundedApart values numerator denominator mode) ≠ 0)
    {i : Nat} (inside : i < values.length) :
    contribution values numerator denominator mode i < 1 := by
  refine (contribution_le_abs_errorAt missing i).trans_lt ?_
  rw [errorAt, getD_roundedApart inside, abs_sub_comm]
  exact mode.abs_round_sub_lt_one _

/-- The sign of a number decides about its multiples as the number does. -/
theorem sign_mul_pos_iff {x : ℚ} {k : Int} : 0 < (SignType.sign x : Int) * k ↔ 0 < x * k := by
  have hpos : (0 : ℚ) < k ↔ 0 < k := Int.cast_pos
  have hneg : (k : ℚ) < 0 ↔ k < 0 := Int.cast_lt_zero
  rcases lt_trichotomy x 0 with below | rfl | above
  · rw [sign_neg below, mul_pos_iff, mul_pos_iff, hpos, hneg]
    simp [below, below.not_gt]
  · simp
  · rw [sign_pos above, mul_pos_iff_of_pos_left above, hpos]
    simp

section Nonzero

variable (nonzero : denominator ≠ 0)

include nonzero

/-- The numbers that are to be moved are those that contribute to what is missing. -/
theorem mem_correcting_iff {i : Nat} : i ∈ correcting values numerator denominator mode ↔
    i < values.length ∧ 0 < contribution values numerator denominator mode i := by
  rw [correcting, Finset.mem_filter, Finset.mem_range]
  refine and_congr_right fun inside => ?_
  have hsign := deviation_round (remainder_ofRatio_lt (values.getD i 0) numerator nonzero) mode
  rw [value_ofRatio _ _ nonzero] at hsign
  rw [contribution, errorAt, getD_roundedApart inside, hsign, mul_assoc, sign_mul_pos_iff]

/-- **There are more candidates than missing units.** What the candidates contribute makes up all
missing units, and none of them contributes as much as one. -/
theorem natAbs_gap_lt_card_correcting (adds_up : gap values = 0)
    (missing : gap (roundedApart values numerator denominator mode) ≠ 0) :
    (gap (roundedApart values numerator denominator mode)).natAbs <
      (correcting values numerator denominator mode).card := by
  have size := natAbs_gap_eq_sum_contribution adds_up numerator denominator mode
  have inside : correcting values numerator denominator mode ⊆ Finset.range values.length :=
    Finset.filter_subset _ _
  have upper : ∑ i ∈ Finset.range values.length, contribution values numerator denominator mode i ≤
      ∑ i ∈ correcting values numerator denominator mode,
        contribution values numerator denominator mode i := by
    rw [← Finset.sum_sdiff inside, add_le_iff_nonpos_left]
    refine Finset.sum_nonpos fun i hi => ?_
    obtain ⟨hrange, other⟩ := Finset.mem_sdiff.1 hi
    rw [mem_correcting_iff nonzero] at other
    exact not_lt.1 fun toward => other ⟨Finset.mem_range.1 hrange, toward⟩
  have small : ∀ i ∈ correcting values numerator denominator mode,
      contribution values numerator denominator mode i < 1 :=
    fun i hi => contribution_lt_one missing (Finset.mem_range.1 (inside hi))
  have nonempty : (correcting values numerator denominator mode).Nonempty := by
    by_contra empty
    rw [Finset.not_nonempty_iff_eq_empty.1 empty, Finset.sum_empty, ← size] at upper
    have : (gap (roundedApart values numerator denominator mode)).natAbs ≤ 0 := by
      exact_mod_cast upper
    omega
  have total : ((gap (roundedApart values numerator denominator mode)).natAbs : ℚ) <
      (correcting values numerator denominator mode).card := by
    calc ((gap (roundedApart values numerator denominator mode)).natAbs : ℚ)
        ≤ ∑ i ∈ correcting values numerator denominator mode,
            contribution values numerator denominator mode i := size.trans_le upper
      _ < ∑ i ∈ correcting values numerator denominator mode, (1 : ℚ) :=
          Finset.sum_lt_sum_of_nonempty nonempty small
      _ = (correcting values numerator denominator mode).card := by simp
  exact_mod_cast total

end Nonzero

/-! ### Shares of the rounded numbers -/

/-- The shares at the start of the adjustment, by the numbers that they come from. -/
theorem getElem?_ratioShares_eq_map (values : List Int) (numerator denominator : Int)
    (mode : RoundingMode) (i : Nat) :
    (ratioShares values numerator denominator mode)[i]? = values[i]?.map fun v : Int =>
      Share.ofRounded (gap (roundedApart values numerator denominator mode)).sign i
        (ofRatio v numerator denominator) (mode.round ((v : ℚ) * numerator / denominator)) := by
  rw [ratioShares, initialShares, List.getElem?_mapIdx]
  simp only [roundedApart, List.zip_map', List.getElem?_map, Option.map_map]
  rfl

/-- A share at the start of the adjustment, by its position. -/
theorem getElem?_ratioShares {i : Nat} (inside : i < values.length) (numerator denominator : Int)
    (mode : RoundingMode) :
    (ratioShares values numerator denominator mode)[i]? =
      some (Share.ofRounded (gap (roundedApart values numerator denominator mode)).sign i
        (ofRatio (values.getD i 0) numerator denominator)
        ((roundedApart values numerator denominator mode).getD i 0)) := by
  rw [getElem?_ratioShares_eq_map, List.getElem?_eq_getElem inside, getD_roundedApart inside,
    List.getD_eq_getElem _ _ inside]
  rfl

/-- The candidates at the start are the numbers that are to be moved. -/
theorem candidates_ratioShares : candidates (ratioShares values numerator denominator mode) =
    correcting values numerator denominator mode := by
  have hlength : (ratioShares values numerator denominator mode).length = values.length := by
    rw [← List.length_map Share.value, map_value_ratioShares, roundedApart, List.length_map]
  rw [candidates, correcting, hlength]
  refine Finset.filter_congr fun i hi => ?_
  rw [getElem?_ratioShares (Finset.mem_range.1 hi)]
  simp only [Option.bind_some, Share.ofRounded]
  split_ifs with toward
  · exact iff_of_true rfl toward
  · exact iff_of_false Bool.false_ne_true toward

/-- They have positive weights if their relative errors are positive as floats. -/
theorem positiveWeights_ratioShares
    (positive : ∀ i ∈ correcting values numerator denominator mode,
      0 < relativeDeviation (ofRatio (values.getD i 0) numerator denominator)
        ((roundedApart values numerator denominator mode).getD i 0)) :
    PositiveWeights (ratioShares values numerator denominator mode) := by
  intro share hshare weight hweight
  obtain ⟨i, hi⟩ := List.mem_iff_getElem?.1 hshare
  have hcandidate : i ∈ correcting values numerator denominator mode := by
    rw [← candidates_ratioShares, mem_candidates]
    exact ⟨share, hi, Option.isSome_iff_exists.2 ⟨weight, hweight⟩⟩
  have inside := Finset.mem_range.1 (Finset.mem_of_mem_filter i hcandidate)
  rw [getElem?_ratioShares inside, Option.some.injEq] at hi
  subst hi
  simp only [Share.ofRounded, Option.mem_def, Option.ite_none_right_eq_some,
    Option.some.injEq] at hweight
  rw [← hweight.2]
  exact positive i hcandidate

/-! ### Apportionments -/

/-- The number at a position can be rounded on its own if the product can be rounded at all. -/
theorem round_ofRatio_of_divideProduct {v r : Int} (hv : FitsWord v) (hn : FitsWord numerator)
    (hd : FitsWord denominator) (nonzero : denominator ≠ 0)
    (h : divideProduct v numerator denominator mode = .ok r) :
    ofProduct .installed v numerator denominator = .ok (ofRatio v numerator denominator) ∧
      (ofRatio v numerator denominator).round mode = .ok r := by
  rw [divideProduct, divideProductOn_eq_roundWord .installed hv hn hd nonzero] at h
  have fits : (ofRatio v numerator denominator).whole < UInt64.size := by
    by_contra large
    have hfloor : (UInt64.size : ℤ) ≤ ⌊|(v : ℚ) * numerator / denominator|⌋ := by
      rw [← whole_ofRatio v numerator nonzero]
      exact_mod_cast not_lt.1 large
    rw [RoundingMode.roundWord_of_size_le hfloor] at h
    cases h
  rw [ofProduct_eq .installed hv hn hd nonzero, if_pos fits,
    round_eq_roundWord (remainder_ofRatio_lt v numerator nonzero) fits,
    value_ofRatio v numerator nonzero]
  exact ⟨rfl, h⟩

/-- Numbers that add up pass the check, or their sum leaves the words on its way. -/
theorem checkTotal_of_gap_eq_zero (adds_up : gap values = 0) :
    checkTotal values = .ok () ∨ checkTotal values = .error .overflow := by
  cases values with
  | nil => exact .inl rfl
  | cons total parts =>
    rw [gap_cons] at adds_up
    by_cases hsums : PartialSumsFit parts
    · left
      simp only [checkTotal, shortfall, wordSum_of_partialSumsFit hsums, bind, Except.bind, adds_up]
      rfl
    · right
      simp only [checkTotal, shortfall, wordSum_of_not_partialSumsFit hsums, bind, Except.bind]

/-- An apportionment whose numbers can all be rounded, and that misses something then, is decided by
the check of its total and by the adjustment. -/
theorem apportion_eq_settle {missing : Int} (words : ∀ v ∈ values, FitsWord v)
    (hn : FitsWord numerator) (hd : FitsWord denominator) (nonzero : denominator ≠ 0)
    (rounded : ∀ v ∈ values, ∃ r, divideProduct v numerator denominator mode = .ok r ∧ FitsDigits r)
    (hmissing : shortfall (roundedApart values numerator denominator mode) = .ok missing)
    (differs : missing ≠ 0) :
    apportion values numerator denominator mode = (do
      checkTotal values
      return (← settle missing.sign missing.natAbs
        (ratioShares values numerator denominator mode)).map Share.value) := by
  have hexact : values.mapM (fun v => ofProduct .installed v numerator denominator) =
      .ok (values.map fun v => ofRatio v numerator denominator) := by
    rw [mapM_eq_ok_iff, List.forall₂_map_right_iff, List.forall₂_same]
    intro v hv
    obtain ⟨r, hr, _⟩ := rounded v hv
    exact (round_ofRatio_of_divideProduct (words v hv) hn hd nonzero hr).1
  have hrounded : (values.map fun v => ofRatio v numerator denominator).mapM
      (fun q => do checkDigits (← q.round mode)) =
        .ok (roundedApart values numerator denominator mode) := by
    rw [mapM_eq_ok_iff, roundedApart, List.forall₂_map_left_iff, List.forall₂_map_right_iff,
      List.forall₂_same]
    intro v hv
    obtain ⟨r, hr, hdigits⟩ := rounded v hv
    have hround := (round_ofRatio_of_divideProduct (words v hv) hn hd nonzero hr).2
    obtain rfl := eq_round_of_divideProduct (words v hv) hn hd nonzero hr
    rw [hround]
    exact checkDigits_of_fitsDigits hdigits
  rw [apportion]
  refine bind_congr fun _ => ?_
  rw [hexact, ok_bind, hrounded, ok_bind, hmissing, ok_bind, if_neg differs,
    gap_eq_of_shortfall hmissing]
  rfl

/-- **An apportionment never runs out of candidates.** Words that add up are multiplied by a ratio,
and all of them can be rounded on their own to at most eighteen digits, but then the rounded parts
miss the rounded total.  There are more numbers with an error that points the way in which they have
to move than there are missing units.  If the relative errors of these numbers are positive as
floats, the adjustment picks one of them for every missing unit, unless it overflows; so the sums of
an apportionment never mismatch. -/
theorem apportion_finds_candidates {missing : Int} (words : ∀ v ∈ values, FitsWord v)
    (hn : FitsWord numerator) (hd : FitsWord denominator) (nonzero : denominator ≠ 0)
    (adds_up : values.headD 0 = values.tail.sum)
    (rounded : ∀ v ∈ values, ∃ r, divideProduct v numerator denominator mode = .ok r ∧ FitsDigits r)
    (hmissing : shortfall (roundedApart values numerator denominator mode) = .ok missing)
    (differs : missing ≠ 0) :
    missing.natAbs < (correcting values numerator denominator mode).card ∧
    ((∀ i ∈ correcting values numerator denominator mode,
        0 < relativeDeviation (ofRatio (values.getD i 0) numerator denominator)
          ((roundedApart values numerator denominator mode).getD i 0)) →
      apportion values numerator denominator mode = (do
        checkTotal values
        return (← settle missing.sign missing.natAbs
          (ratioShares values numerator denominator mode)).map Share.value) ∧
      SettlesOrOverflows missing.sign missing.natAbs
        (ratioShares values numerator denominator mode) ∧
      ∀ total sum,
        apportion values numerator denominator mode ≠ .error (.sumMismatch total sum)) := by
  have closed : gap values = 0 := gap_eq_zero_iff.2 adds_up
  have hequation := apportion_eq_settle words hn hd nonzero rounded hmissing differs
  have hgap := gap_eq_of_shortfall hmissing
  have enough : missing.natAbs < (correcting values numerator denominator mode).card := by
    rw [hgap] at differs ⊢
    exact natAbs_gap_lt_card_correcting nonzero closed differs
  refine ⟨enough, fun positive => ?_⟩
  have hsettles : SettlesOrOverflows missing.sign missing.natAbs
      (ratioShares values numerator denominator mode) := by
    refine settlesOrOverflows (positiveWeights_ratioShares positive) ?_
    rw [candidates_ratioShares]
    exact enough.le
  refine ⟨hequation, hsettles, fun total sum mismatch => ?_⟩
  rw [hequation] at mismatch
  rcases checkTotal_of_gap_eq_zero closed with passed | overflow
  · rw [passed] at mismatch
    rcases hsettles with ⟨_, _, hsettle, _, _⟩ | ⟨_, _, _, _, _, _, _, hsettle⟩ <;>
      rw [hsettle] at mismatch <;> cases mismatch
  · rw [overflow] at mismatch
    cases mismatch

/-- Three parts below zero that are rounded away from zero, two units too many: the three candidates
are just enough. -/
theorem apportion_finds_candidates_at_thirds :
    shortfall (roundedApart [-1000, -333, -333, -334] 1 1000 .up) = .ok 2 ∧
      2 < (correcting [-1000, -333, -333, -334] 1 1000 .up).card ∧
      correcting [-1000, -333, -333, -334] 1 1000 .up = {1, 2, 3} ∧
      SettlesOrOverflows 1 2 (ratioShares [-1000, -333, -333, -334] 1 1000 .up) ∧
      ∀ total sum, apportion [-1000, -333, -333, -334] 1 1000 .up ≠
        .error (.sumMismatch total sum) := by
  have words : ∀ v ∈ [-1000, -333, -333, -334], FitsWord v := by decide
  have away : ∀ v ∈ [-1000, -333, -333, -334], divideProduct v 1 1000 .up = .ok (-1) := by
    decide +kernel
  have rounded : ∀ v ∈ [-1000, -333, -333, -334],
      ∃ r, divideProduct v 1 1000 .up = .ok r ∧ FitsDigits r :=
    fun v hv => ⟨-1, away v hv, by decide⟩
  have missing : shortfall (roundedApart [-1000, -333, -333, -334] 1 1000 .up) = .ok 2 := by
    decide +kernel
  have positive : ∀ i ∈ correcting [-1000, -333, -333, -334] 1 1000 .up,
      0 < relativeDeviation (ofRatio ([-1000, -333, -333, -334].getD i 0) 1 1000)
        ((roundedApart [-1000, -333, -333, -334] 1 1000 .up).getD i 0) := by decide +kernel
  obtain ⟨enough, outcome⟩ := apportion_finds_candidates words (by decide) (by decide) (by decide)
    (by decide) rounded missing (by decide)
  obtain ⟨_, hsettles, never⟩ := outcome positive
  exact ⟨missing, enough, by decide +kernel, hsettles, never⟩

end Errors

end DecimalMoney
