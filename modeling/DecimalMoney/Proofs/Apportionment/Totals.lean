import DecimalMoney.Proofs.Apportionment.Settlement

/-!
# Totals of apportionments

An apportionment rounds every number on its own and adjusts what it gets.  Where nothing is missing
that is an adjustment by no unit, so that one equation covers both cases; the gap that the rounded
numbers leave is the one that the adjustment closes.

## Main definitions

* `DecimalMoney.initialShares` : the rounded numbers with their weights.

## Main results

* `DecimalMoney.settle_of_apportion` : an apportionment is a rounding with an adjustment.
* `DecimalMoney.gap_of_apportion` : its numbers add up.
* `DecimalMoney.fitsDigits_of_apportion` : they have at most eighteen digits.
-/

namespace DecimalMoney

/-! ### The shares at the start -/

/-- The rounded numbers as shares, with the weights they have before the adjustment. -/
def initialShares (adjustment : Int) (exact : List TruncatedQuotient) (rounded : List Int) :
    List Share :=
  (exact.zip rounded).mapIdx fun index share =>
    Share.ofRounded adjustment index share.1 share.2

@[simp] theorem map_value_initialShares {adjustment : Int} {exact : List TruncatedQuotient}
    {rounded : List Int} (h : exact.length = rounded.length) :
    (initialShares adjustment exact rounded).map Share.value = rounded := by
  have hvalue : (initialShares adjustment exact rounded).map Share.value =
      (exact.zip rounded).map Prod.snd := by
    refine List.ext_getElem? fun i => ?_
    rw [List.getElem?_map, initialShares, List.getElem?_mapIdx, List.getElem?_map, Option.map_map]
    rfl
  rw [hvalue, List.map_snd_zip h.ge]

/-! ### Apportionment as rounding and adjustment -/

/-- An apportionment rounds every number on its own and then takes up the gap that is left. -/
theorem settle_of_apportion {values result : List Int} {numerator denominator : Int}
    {mode : RoundingMode} (h : apportion values numerator denominator mode = .ok result) :
    ∃ exact rounded settled,
      values.mapM (fun v => TruncatedQuotient.ofProduct .installed v numerator denominator) =
        .ok exact ∧
      exact.mapM (fun q => do checkDigits (← q.round mode)) = .ok rounded ∧
      settle (gap rounded).sign (gap rounded).natAbs
        (initialShares (gap rounded).sign exact rounded) = .ok settled ∧
      result = settled.map Share.value := by
  rw [apportion, bind_eq_ok_iff] at h
  obtain ⟨_, _, h⟩ := h
  obtain ⟨exact, hexact, h⟩ := bind_eq_ok_iff.1 h
  obtain ⟨rounded, hrounded, h⟩ := bind_eq_ok_iff.1 h
  obtain ⟨missing, hmissing, h⟩ := bind_eq_ok_iff.1 h
  rw [gap_eq_of_shortfall hmissing] at h
  have hlength := (mapM_eq_ok_iff.1 hrounded).length_eq
  split_ifs at h with closed
  · cases h
    refine ⟨exact, result, initialShares (gap result).sign exact result, hexact, hrounded, ?_,
      (map_value_initialShares hlength).symm⟩
    rw [closed]
    rfl
  · obtain ⟨settled, hsettled, h⟩ := bind_eq_ok_iff.1 h
    cases h
    exact ⟨exact, rounded, settled, hexact, hrounded, hsettled, rfl⟩

/-- There are as many numbers as before. -/
theorem length_of_apportion {values result : List Int} {numerator denominator : Int}
    {mode : RoundingMode} (h : apportion values numerator denominator mode = .ok result) :
    result.length = values.length := by
  obtain ⟨exact, rounded, settled, hexact, hrounded, hsettle, rfl⟩ := settle_of_apportion h
  have hlength := (mapM_eq_ok_iff.1 hrounded).length_eq
  rw [List.length_map, length_settle hsettle, ← List.length_map Share.value,
    map_value_initialShares hlength, ← hlength, (mapM_eq_ok_iff.1 hexact).length_eq]

/-- **The numbers of an apportionment add up.** -/
theorem gap_of_apportion {values result : List Int} {numerator denominator : Int}
    {mode : RoundingMode} (h : apportion values numerator denominator mode = .ok result) :
    gap result = 0 := by
  obtain ⟨exact, rounded, settled, _, hrounded, hsettle, rfl⟩ := settle_of_apportion h
  obtain ⟨moved, hcard, hsettled⟩ := exists_settled_of_settle hsettle
  have hlength := (mapM_eq_ok_iff.1 hrounded).length_eq
  rw [hsettled.gap_eq, map_value_initialShares hlength, hcard, Int.sign_mul_natAbs, sub_self]

/-- **They have at most eighteen digits**, whatever was apportioned. -/
theorem fitsDigits_of_apportion {values result : List Int} {numerator denominator : Int}
    {mode : RoundingMode} (h : apportion values numerator denominator mode = .ok result) :
    ∀ x ∈ result, FitsDigits x := by
  obtain ⟨exact, rounded, settled, _, hrounded, hsettle, rfl⟩ := settle_of_apportion h
  obtain ⟨moved, _, hsettled⟩ := exists_settled_of_settle hsettle
  refine hsettled.forall_fitsDigits ?_
  rw [map_value_initialShares (mapM_eq_ok_iff.1 hrounded).length_eq]
  refine forall_mem_of_mapM hrounded fun q _ x hx => ?_
  obtain ⟨_, _, hx⟩ := bind_eq_ok_iff.1 hx
  obtain ⟨hdigits, rfl⟩ := checkDigits_eq_ok_iff.1 hx
  exact hdigits

end DecimalMoney
