import DecimalMoney.Proofs.Apportionment.Deviation
import DecimalMoney.Proofs.Apportionment.Totals
import DecimalMoney.Proofs.Wide.ProductQuotient

/-!
# Apportioned numbers

What an apportionment yields, said without the steps that lead to it: numbers that add up, each less
than one unit from its exact product, of which no more differ from their own rounding than units
were missing.

## Main definitions

* `DecimalMoney.roundedApart` : every number rounded on its own.
* `DecimalMoney.Apportioned` : the numbers that an apportionment may yield.

## Main results

* `DecimalMoney.apportioned_of_settled` : numbers rounded on their own and then adjusted are
  apportioned.
* `DecimalMoney.apportionments_exact` : apportionments by a ratio and to another scale yield
  apportioned numbers.
-/

namespace DecimalMoney

open TruncatedQuotient

/-! ### Apportioned numbers -/

/-- Every number multiplied by a ratio and rounded on its own. -/
def roundedApart (values : List Int) (numerator denominator : Int) (mode : RoundingMode) :
    List Int :=
  values.map fun v : Int => mode.round ((v : ℚ) * numerator / denominator)

/-- The numbers in `result` are those in `values`, multiplied by `numerator / denominator` and
adjusted so that they add up. -/
structure Apportioned (values : List Int) (numerator denominator : Int) (mode : RoundingMode)
    (result : List Int) : Prop where
  /-- There are as many numbers as before. -/
  length_eq : result.length = values.length
  /-- The total is the sum of its parts. -/
  adds_up : result.headD 0 = result.tail.sum
  /-- Every number has at most eighteen digits. -/
  digits : ∀ x ∈ result, FitsDigits x
  /-- Every number lies less than one unit from its exact product. -/
  near : ∀ i < values.length,
    |result.getD i 0 * denominator - values.getD i 0 * numerator| < |denominator|
  /-- A product that is an integer is that number. -/
  exact : ∀ i < values.length, denominator ∣ values.getD i 0 * numerator →
    result.getD i 0 * denominator = values.getD i 0 * numerator
  /-- As many numbers differ from their own rounding as units were missing. -/
  moved : ((Finset.range values.length).filter fun i =>
      result.getD i 0 ≠ (roundedApart values numerator denominator mode).getD i 0).card =
    (gap (roundedApart values numerator denominator mode)).natAbs
  /-- Each of them differs by one unit. -/
  moved_by_one : ∀ i < values.length,
    result.getD i 0 ≠ (roundedApart values numerator denominator mode).getD i 0 →
    |result.getD i 0 - (roundedApart values numerator denominator mode).getD i 0| = 1

/-- An integer near a ratio, said with integers. -/
theorem abs_sub_ratio_lt_one_iff {x v n d : Int} (nonzero : d ≠ 0) :
    |(x : ℚ) - v * n / d| < 1 ↔ |x * d - v * n| < |d| := by
  have hd : (d : ℚ) ≠ 0 := by exact_mod_cast nonzero
  have hdiff : (x : ℚ) - v * n / d = ((x * d - v * n : Int) : ℚ) / d := by
    push_cast
    field_simp
  rw [hdiff, abs_div, div_lt_one (abs_pos.2 hd)]
  exact_mod_cast Iff.rfl

/-- An integer near to a ratio that is an integer is that integer. -/
theorem eq_of_near_of_dvd {x product d : Int} (near : |x * d - product| < |d|)
    (divides : d ∣ product) : x * d = product := by
  have hdvd : |d| ∣ x * d - product := (abs_dvd _ _).2 (dvd_sub (dvd_mul_left _ _) divides)
  exact sub_eq_zero.1 (Int.eq_zero_of_abs_lt_dvd hdvd near)

theorem getD_roundedApart {values : List Int} {i : Nat} (inside : i < values.length)
    (numerator denominator : Int) (mode : RoundingMode) :
    (roundedApart values numerator denominator mode).getD i 0 =
      mode.round ((values.getD i 0 : ℚ) * numerator / denominator) := by
  rw [roundedApart, List.getD_eq_getElem?_getD, List.getElem?_map, List.getD_eq_getElem?_getD,
    List.getElem?_eq_getElem inside]
  rfl

/-- Apportioned numbers beside the numbers that they come from. -/
theorem Apportioned.forall₂_near {values result : List Int} {numerator denominator : Int}
    {mode : RoundingMode} (h : Apportioned values numerator denominator mode result)
    (nonzero : denominator ≠ 0) :
    List.Forall₂ (fun x y : Int => |(y : ℚ) - x * numerator / denominator| < 1) values result := by
  refine List.forall₂_iff_get.2 ⟨h.length_eq.symm, fun i hvalue hresult => ?_⟩
  have near := h.near i hvalue
  rw [List.getD_eq_getElem _ _ hvalue, List.getD_eq_getElem _ _ hresult] at near
  exact (abs_sub_ratio_lt_one_iff nonzero).2 near

/-! ### From the adjustment to the result -/

/-- A candidate moves toward its exact number. -/
theorem toward_of_candidate {adjustment : Int} {exact : List TruncatedQuotient}
    {rounded : List Int} {index : Nat}
    (h : Candidate (initialShares adjustment exact rounded) index) :
    ∃ q x, exact[index]? = some q ∧ rounded[index]? = some x ∧
      0 < deviation q x * (adjustment * direction index) := by
  obtain ⟨share, hshare, hweight⟩ := h
  rw [initialShares, List.getElem?_mapIdx, Option.map_eq_some_iff] at hshare
  obtain ⟨⟨q, x⟩, hpair, rfl⟩ := hshare
  rw [List.getElem?_zip_eq_some] at hpair
  refine ⟨q, x, hpair.1, hpair.2, ?_⟩
  by_contra away
  rw [← mul_assoc] at away
  simp [Share.ofRounded, away] at hweight

/-- The shares of the ratios, each with its own rounding. -/
def ratioShares (values : List Int) (numerator denominator : Int) (mode : RoundingMode) :
    List Share :=
  initialShares (gap (roundedApart values numerator denominator mode)).sign
    (values.map fun v => ofRatio v numerator denominator)
    (roundedApart values numerator denominator mode)

@[simp] theorem map_value_ratioShares (values : List Int) (numerator denominator : Int)
    (mode : RoundingMode) : (ratioShares values numerator denominator mode).map Share.value =
      roundedApart values numerator denominator mode :=
  map_value_initialShares (by simp [roundedApart])

/-- A step of the adjustment is a step of one. -/
theorem step_mul_self {missing : Int} (nonzero : missing ≠ 0) (i : Nat) :
    missing.sign * direction i * (missing.sign * direction i) = 1 := by
  rw [mul_mul_mul_comm, direction_mul_self, mul_one]
  rcases lt_or_gt_of_ne nonzero with below | above
  · rw [Int.sign_eq_neg_one_of_neg below]
    rfl
  · rw [Int.sign_eq_one_of_pos above]
    rfl

section Settled

variable {values : List Int} {numerator denominator : Int} {mode : RoundingMode}
  {moved : Finset Nat} {settled : List Share}
  (hcard : moved.card = (gap (roundedApart values numerator denominator mode)).natAbs)
  (h : Settled (gap (roundedApart values numerator denominator mode)).sign moved
    (ratioShares values numerator denominator mode) settled)

include h

theorem length_of_settled : (settled.map Share.value).length = values.length := by
  rw [List.length_map, h.length_eq, ← List.length_map Share.value, map_value_ratioShares,
    roundedApart, List.length_map]

theorem getD_of_settled (i : Nat) : (settled.map Share.value).getD i 0 =
    (roundedApart values numerator denominator mode).getD i 0 +
      if i ∈ moved then
        (gap (roundedApart values numerator denominator mode)).sign * direction i else 0 := by
  rw [← valueAt_eq_getD, h.value, valueAt_eq_getD, map_value_ratioShares]

/-- Every number has at most eighteen digits if the rounded ones have. -/
theorem fitsDigits_of_settled
    (hdigits : ∀ x ∈ roundedApart values numerator denominator mode, FitsDigits x) :
    ∀ x ∈ settled.map Share.value, FitsDigits x := by
  refine h.forall_fitsDigits ?_
  rw [map_value_ratioShares]
  exact hdigits

omit h in
include hcard in
/-- Where a number has moved, something was missing. -/
theorem gap_ne_zero_of_mem {i : Nat} (hi : i ∈ moved) :
    gap (roundedApart values numerator denominator mode) ≠ 0 := by
  rw [← Int.natAbs_ne_zero, ← hcard]
  exact Finset.card_ne_zero_of_mem hi

include hcard

/-- The numbers that differ from their own rounding are those that have moved. -/
theorem getD_ne_iff_mem (i : Nat) : (settled.map Share.value).getD i 0 ≠
    (roundedApart values numerator denominator mode).getD i 0 ↔ i ∈ moved := by
  rw [getD_of_settled h]
  by_cases hi : i ∈ moved
  · have unit := step_mul_self (gap_ne_zero_of_mem hcard hi) i
    have step : (gap (roundedApart values numerator denominator mode)).sign * direction i ≠ 0 :=
      left_ne_zero_of_mul_eq_one unit
    simp [hi, step]
  · simp [hi]

theorem filter_ne_eq_moved : ((Finset.range values.length).filter fun i =>
    (settled.map Share.value).getD i 0 ≠
      (roundedApart values numerator denominator mode).getD i 0) = moved := by
  ext i
  rw [Finset.mem_filter, getD_ne_iff_mem hcard h, Finset.mem_range, and_iff_right_iff_imp]
  intro hi
  have inside := (h.candidate i hi).lt_length
  rwa [← h.length_eq, ← List.length_map Share.value, length_of_settled h] at inside

/-- A number that differs from its own rounding has moved by one. -/
theorem abs_sub_eq_one_of_settled {i : Nat} (differs : (settled.map Share.value).getD i 0 ≠
    (roundedApart values numerator denominator mode).getD i 0) :
    |(settled.map Share.value).getD i 0 -
      (roundedApart values numerator denominator mode).getD i 0| = 1 := by
  rw [getD_ne_iff_mem hcard h] at differs
  rw [getD_of_settled h, if_pos differs, add_sub_cancel_left]
  rcases mul_self_eq_one_iff.1 (step_mul_self (gap_ne_zero_of_mem hcard differs) i) with one | one
  · rw [one, abs_one]
  · rw [one, abs_neg, abs_one]

omit hcard in
/-- A number that has moved did so toward its exact product. -/
theorem toward_of_mem (nonzero : denominator ≠ 0) {i : Nat} (inside : i < values.length)
    (hi : i ∈ moved) :
    0 < deviation (ofRatio (values.getD i 0) numerator denominator)
        (mode.round (ofRatio (values.getD i 0) numerator denominator).value) *
      ((gap (roundedApart values numerator denominator mode)).sign * direction i) := by
  obtain ⟨q, x, hq, hx, toward⟩ := toward_of_candidate (h.candidate i hi)
  have hratio : q = ofRatio (values.getD i 0) numerator denominator := by
    rw [List.getElem?_map, List.getElem?_eq_getElem inside] at hq
    rw [List.getD_eq_getElem?_getD, List.getElem?_eq_getElem inside]
    exact (Option.some.inj hq).symm
  have hround : x = mode.round q.value := by
    rw [hratio, value_ofRatio _ _ nonzero, ← getD_roundedApart inside, List.getD_eq_getElem?_getD,
      hx]
    rfl
  rwa [hround, hratio] at toward

/-- Rounded on its own or moved toward its exact number, every number is near to it. -/
theorem abs_sub_lt_one_of_settled (nonzero : denominator ≠ 0) {i : Nat}
    (inside : i < values.length) :
    |(((settled.map Share.value).getD i 0 : Int) : ℚ) -
      values.getD i 0 * numerator / denominator| < 1 := by
  rw [getD_of_settled h]
  by_cases hi : i ∈ moved
  · rw [if_pos hi, getD_roundedApart inside, ← value_ofRatio _ _ nonzero]
    exact abs_step_sub_lt_one (remainder_ofRatio_lt _ _ nonzero)
      (step_mul_self (gap_ne_zero_of_mem hcard hi) i) (toward_of_mem h nonzero inside hi)
  · rw [if_neg hi, add_zero, getD_roundedApart inside]
    exact mode.abs_round_sub_lt_one _

/-- **Numbers that are rounded on their own and then adjusted are apportioned.** -/
theorem apportioned_of_settled (nonzero : denominator ≠ 0)
    (hdigits : ∀ x ∈ roundedApart values numerator denominator mode, FitsDigits x) :
    Apportioned values numerator denominator mode (settled.map Share.value) where
  length_eq := length_of_settled h
  adds_up := by
    rw [← gap_eq_zero_iff, h.gap_eq, map_value_ratioShares, hcard, Int.sign_mul_natAbs, sub_self]
  digits := fitsDigits_of_settled h hdigits
  near i inside :=
    (abs_sub_ratio_lt_one_iff nonzero).1 (abs_sub_lt_one_of_settled hcard h nonzero inside)
  exact i inside :=
    eq_of_near_of_dvd
      ((abs_sub_ratio_lt_one_iff nonzero).1 (abs_sub_lt_one_of_settled hcard h nonzero inside))
  moved := by rw [filter_ne_eq_moved hcard h, hcard]
  moved_by_one i _ := abs_sub_eq_one_of_settled hcard h

end Settled

/-- Numerator and denominator may be multiplied by a common factor. -/
theorem Apportioned.mul_right {values result : List Int} {numerator denominator : Int}
    {mode : RoundingMode} (h : Apportioned values numerator denominator mode result) {k : Int}
    (nonzero : k ≠ 0) : Apportioned values (numerator * k) (denominator * k) mode result := by
  have hratio : roundedApart values (numerator * k) (denominator * k) mode =
      roundedApart values numerator denominator mode := by
    have hk : (k : ℚ) ≠ 0 := by exact_mod_cast nonzero
    refine List.map_congr_left fun v _ => ?_
    rw [Int.cast_mul, Int.cast_mul, ← mul_assoc, mul_div_mul_right _ _ hk]
  have near : ∀ i < values.length,
      |result.getD i 0 * (denominator * k) - values.getD i 0 * (numerator * k)| <
        |denominator * k| := by
    intro i inside
    rw [← mul_assoc, ← mul_assoc, ← sub_mul, abs_mul, abs_mul]
    exact mul_lt_mul_of_pos_right (h.near i inside) (abs_pos.2 nonzero)
  have moved := h.moved
  have moved_by_one := h.moved_by_one
  rw [← hratio] at moved moved_by_one
  exact ⟨h.length_eq, h.adds_up, h.digits, near, fun i inside => eq_of_near_of_dvd (near i inside),
    moved, moved_by_one⟩

/-! ### Apportionments of words -/

/-- The rounding of a truncated quotient is that of its exact number. -/
theorem eq_round_of_round {q : TruncatedQuotient} (h : q.remainder < q.divisor)
    {mode : RoundingMode} {x : Int} (hx : q.round mode = .ok x) : x = mode.round q.value := by
  unfold TruncatedQuotient.round at hx
  split_ifs at hx
  rw [(checkWord_eq_ok_iff.1 hx).2, signed_roundedMagnitude h]

section Words

variable {values : List Int} {numerator denominator : Int} {mode : RoundingMode}
  {exact : List TruncatedQuotient} {rounded : List Int} (nonzero : denominator ≠ 0)

include nonzero

/-- The truncated quotients of words are the ratios. -/
theorem eq_map_ofRatio_of_mapM (words : ∀ v ∈ values, FitsWord v) (hn : FitsWord numerator)
    (hd : FitsWord denominator)
    (h : values.mapM (fun v => ofProduct .installed v numerator denominator) = .ok exact) :
    exact = values.map fun v => ofRatio v numerator denominator := by
  refine eq_map_of_mapM h fun v hv q hq => ?_
  rw [ofProduct_eq .installed (words v hv) hn hd nonzero] at hq
  split_ifs at hq
  cases hq
  rfl

/-- The rounded ratios are the roundings of the exact products, of at most eighteen digits. -/
theorem eq_roundedApart_of_mapM
    (h : (values.map fun v => ofRatio v numerator denominator).mapM
      (fun q => do checkDigits (← q.round mode)) = .ok rounded) :
    rounded = roundedApart values numerator denominator mode ∧ ∀ x ∈ rounded, FitsDigits x := by
  have hround : ∀ q ∈ values.map (fun v => ofRatio v numerator denominator), ∀ x,
      (do checkDigits (← q.round mode)) = .ok x → FitsDigits x ∧ x = mode.round q.value := by
    intro q hq x hx
    obtain ⟨v, _, rfl⟩ := List.mem_map.1 hq
    obtain ⟨y, hy, hx⟩ := bind_eq_ok_iff.1 hx
    obtain ⟨hdigits, rfl⟩ := checkDigits_eq_ok_iff.1 hx
    exact ⟨hdigits, eq_round_of_round (remainder_ofRatio_lt v numerator nonzero) hy⟩
  refine ⟨?_, forall_mem_of_mapM h fun q hq x hx => (hround q hq x hx).1⟩
  rw [eq_map_of_mapM h fun q hq x hx => (hround q hq x hx).2, List.map_map]
  refine List.map_congr_left fun v _ => ?_
  rw [Function.comp_apply, value_ofRatio v numerator nonzero]

/-- An apportionment of words rounds every number on its own, to eighteen digits at most, and moves
as many numbers as units are missing then. -/
theorem exists_settled_of_apportion {result : List Int} (words : ∀ v ∈ values, FitsWord v)
    (hn : FitsWord numerator) (hd : FitsWord denominator)
    (h : apportion values numerator denominator mode = .ok result) :
    (∀ x ∈ roundedApart values numerator denominator mode, FitsDigits x) ∧
    ∃ (moved : Finset Nat) (settled : List Share),
      moved.card = (gap (roundedApart values numerator denominator mode)).natAbs ∧
      Settled (gap (roundedApart values numerator denominator mode)).sign moved
        (ratioShares values numerator denominator mode) settled ∧
      result = settled.map Share.value := by
  obtain ⟨exact, rounded, settled, hexact, hrounded, hsettle, rfl⟩ := settle_of_apportion h
  obtain rfl := eq_map_ofRatio_of_mapM nonzero words hn hd hexact
  obtain ⟨rfl, hdigits⟩ := eq_roundedApart_of_mapM nonzero hrounded
  obtain ⟨moved, hcard, hsettled⟩ := exists_settled_of_settle hsettle
  exact ⟨hdigits, moved, settled, hcard, hsettled, rfl⟩

/-- **An apportionment of words yields apportioned numbers.** -/
theorem apportioned_of_apportion {result : List Int} (words : ∀ v ∈ values, FitsWord v)
    (hn : FitsWord numerator) (hd : FitsWord denominator)
    (h : apportion values numerator denominator mode = .ok result) :
    Apportioned values numerator denominator mode result := by
  obtain ⟨hdigits, moved, settled, hcard, hsettled, rfl⟩ :=
    exists_settled_of_apportion nonzero words hn hd h
  exact apportioned_of_settled hcard hsettled nonzero hdigits

/-- What is rounded on its own in an apportionment is what the ratio alone gives. -/
theorem divideProduct_of_apportion {result : List Int} (words : ∀ v ∈ values, FitsWord v)
    (hn : FitsWord numerator) (hd : FitsWord denominator)
    (h : apportion values numerator denominator mode = .ok result) {v : Int} (hv : v ∈ values) :
    divideProduct v numerator denominator mode =
      .ok (mode.round ((v : ℚ) * numerator / denominator)) := by
  obtain ⟨exact, rounded, _, hexact, hrounded, _, _⟩ := settle_of_apportion h
  obtain ⟨q, hq, hproduct⟩ := exists_mem_of_mapM hexact hv
  obtain ⟨_, _, hround⟩ := exists_mem_of_mapM hrounded hq
  obtain ⟨x, hx, _⟩ := bind_eq_ok_iff.1 hround
  rw [ofProduct_eq .installed (words v hv) hn hd nonzero] at hproduct
  split_ifs at hproduct with fits
  cases hproduct
  have hword := divideProductOn_eq_roundWord .installed (words v hv) hn hd nonzero mode
  rw [← value_ofRatio v numerator nonzero,
    ← round_eq_roundWord (remainder_ofRatio_lt v numerator nonzero) fits, hx] at hword
  rw [divideProduct, hword, eq_round_of_round (remainder_ofRatio_lt v numerator nonzero) hx,
    value_ofRatio v numerator nonzero]

end Words

/-! ### Apportionments to another scale -/

/-- Products with a factor that keep to eighteen digits are apportioned, since nothing is lost. -/
theorem apportioned_map_mul {values : List Int} {factor : Int} (adds_up : gap values = 0)
    (hdigits : ∀ x ∈ values.map (· * factor), FitsDigits x) (mode : RoundingMode) :
    Apportioned values factor 1 mode (values.map (· * factor)) := by
  have hrounded : values.map (· * factor) = roundedApart values factor 1 mode := by
    refine List.map_congr_left fun v _ => ?_
    rw [Int.cast_one, div_one, ← Int.cast_mul, RoundingMode.round_intCast]
  have closed : gap (roundedApart values factor 1 mode) = 0 := by
    rw [← hrounded, gap_map_mul, adds_up, zero_mul]
  rw [hrounded] at hdigits ⊢
  have hsettled := Settled.refl (gap (roundedApart values factor 1 mode)).sign
    (ratioShares values factor 1 mode)
  simpa using apportioned_of_settled (by simp [closed]) hsettled one_ne_zero hdigits

/-- **Numbers at another scale are apportioned** by the ratio of the powers of ten. -/
theorem apportioned_of_apportionScale {values result : List Int} {source target : Nat}
    (words : ∀ v ∈ values, FitsWord v) (h : apportionScale values source target = .ok result) :
    Apportioned values (10 ^ target) (10 ^ source) .halfEven result := by
  rw [apportionScale, bind_eq_ok_iff] at h
  obtain ⟨_, hadds, h⟩ := h
  split_ifs at h with larger
  · obtain ⟨factor, hfactor, h⟩ := bind_eq_ok_iff.1 h
    obtain ⟨_, rfl⟩ := powerOfTen_eq_ok_iff.1 hfactor
    obtain ⟨rfl, hdigits⟩ := eq_map_mul_of_mapM h
    have happortioned := (apportioned_map_mul (gap_eq_zero_of_checkTotal hadds) hdigits
      .halfEven).mul_right (ten_pow_pos source).ne'
    rwa [Int.toNat_natCast, one_mul, ← pow_add, Nat.sub_add_cancel larger] at happortioned
  · obtain ⟨factor, hfactor, h⟩ := bind_eq_ok_iff.1 h
    obtain ⟨bounds, rfl⟩ := powerOfTen_eq_ok_iff.1 hfactor
    have smaller := (not_le.1 larger).le
    have happortioned := (apportioned_of_apportion (ten_pow_pos _).ne' words (by decide)
      (fitsWord_ten_pow (by omega)) h).mul_right (ten_pow_pos target).ne'
    rwa [Int.toNat_natCast, one_mul, ← pow_add, Nat.sub_add_cancel smaller] at happortioned

/-- **Apportionments are exact.** Where an apportionment of words by a ratio or to another scale
succeeds, it yields as many numbers, of eighteen digits at most, that add up and lie less than one
unit from their exact products; as many of them as units were missing differ by one unit from their
own rounding. -/
theorem apportionments_exact {values : List Int} (words : ∀ v ∈ values, FitsWord v) :
    (∀ {numerator denominator : Int} {mode : RoundingMode} {result : List Int},
      FitsWord numerator → FitsWord denominator → denominator ≠ 0 →
      apportion values numerator denominator mode = .ok result →
      Apportioned values numerator denominator mode result) ∧
    (∀ {source target : Nat} {result : List Int},
      apportionScale values source target = .ok result →
      Apportioned values (10 ^ target) (10 ^ source) .halfEven result) :=
  ⟨fun hn hd nonzero => apportioned_of_apportion nonzero words hn hd,
    apportioned_of_apportionScale words⟩

/-- Three parts below zero that are rounded away from zero each, and two units too many. -/
theorem apportionments_exact_at_thirds :
    (∀ v ∈ [-1000, -333, -333, -334], FitsWord v) ∧
      apportion [-1000, -333, -333, -334] 1 1000 .up = .ok [-1, 0, 0, -1] ∧
      Apportioned [-1000, -333, -333, -334] 1 1000 .up [-1, 0, 0, -1] ∧
      apportionScale [-1000, -333, -333, -334] 3 0 = .ok [-1, 0, 0, -1] ∧
      Apportioned [-1000, -333, -333, -334] (10 ^ 0) (10 ^ 3) .halfEven [-1, 0, 0, -1] := by
  have words : ∀ v ∈ [-1000, -333, -333, -334], FitsWord v := by decide
  have ratio : apportion [-1000, -333, -333, -334] 1 1000 .up = .ok [-1, 0, 0, -1] := by
    decide +kernel
  have scale : apportionScale [-1000, -333, -333, -334] 3 0 = .ok [-1, 0, 0, -1] := by
    decide +kernel
  exact ⟨words, ratio, (apportionments_exact words).1 (by decide) (by decide) (by decide) ratio,
    scale, (apportionments_exact words).2 scale⟩

end DecimalMoney
