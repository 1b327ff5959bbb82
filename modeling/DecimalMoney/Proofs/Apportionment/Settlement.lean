import DecimalMoney.Proofs.Sums

/-!
# Settlement of a shortfall

The adjustment picks one candidate after another.  Whichever the weights make it pick, a share it
has picked is no candidate any more, so as many different shares move as there are units to take up,
each of them by one step, and the gap closes by one unit with every step.

## Main definitions

* `DecimalMoney.Candidate` : a position that may be picked.
* `DecimalMoney.Settled` : the shares at a set of positions have moved by one step each.

## Main results

* `DecimalMoney.candidate_of_heaviest` : only a candidate is picked.
* `DecimalMoney.settle_succ_eq_ok_iff` : one unit of the adjustment.
* `DecimalMoney.exists_settled_of_settle` : the whole adjustment.
* `DecimalMoney.Settled.gap_eq` : what it does to the gap.
-/

namespace DecimalMoney

/-! ### Candidates -/

/-- The share at a position has a weight, so that it may be picked for adjustment. -/
def Candidate (shares : List Share) (index : Nat) : Prop :=
  ∃ share, shares[index]? = some share ∧ share.weight.isSome

theorem Candidate.lt_length {shares : List Share} {index : Nat} (h : Candidate shares index) :
    index < shares.length := by
  obtain ⟨share, hshare, _⟩ := h
  exact (List.getElem?_eq_some_iff.1 hshare).1

/-- The comparison of one entry with the best so far keeps the best a candidate. -/
private theorem candidate_of_heavier {shares : List Share} {best : Option Nat × Float}
    {entry : Share × Nat} (hbest : ∀ index, best.1 = some index → Candidate shares index)
    (hentry : shares[entry.2]? = some entry.1) {index : Nat}
    (h : (heavier best entry).1 = some index) : Candidate shares index := by
  unfold heavier at h
  cases hweight : entry.1.weight with
  | none => exact hbest index (by simpa [hweight] using h)
  | some weight =>
      simp only [hweight] at h
      split_ifs at h with heavy
      · cases h
        exact ⟨entry.1, hentry, by simp [hweight]⟩
      · exact hbest index h

/-- The search keeps the best a candidate, entry after entry. -/
private theorem candidate_of_foldl {shares : List Share} {entries : List (Share × Nat)}
    {best : Option Nat × Float} (hentries : ∀ entry ∈ entries, shares[entry.2]? = some entry.1)
    (hbest : ∀ index, best.1 = some index → Candidate shares index) :
    ∀ index, (entries.foldl heavier best).1 = some index → Candidate shares index := by
  induction entries generalizing best with
  | nil => exact hbest
  | cons entry entries ih =>
    obtain ⟨hentry, hentries⟩ := List.forall_mem_cons.1 hentries
    exact ih hentries fun index h => candidate_of_heavier hbest hentry h

/-- Only a candidate is picked. -/
theorem candidate_of_heaviest {shares : List Share} {index : Nat}
    (h : heaviest shares = some index) : Candidate shares index := by
  refine candidate_of_foldl ?_ ?_ index h
  · rintro ⟨share, i⟩ hentry
    exact List.mk_mem_zipIdx_iff_getElem?.1 hentry
  · rintro _ ⟨⟩

/-- A share that has been adjusted is no candidate; the others are what they were. -/
theorem candidate_set {shares : List Share} {index other : Nat} {value : Int}
    (h : Candidate (shares.set index ⟨value, none⟩) other) :
    other ≠ index ∧ Candidate shares other := by
  obtain ⟨share, hshare, hweight⟩ := h
  rw [List.getElem?_set] at hshare
  split_ifs at hshare with same inside
  · cases hshare
    cases hweight
  · exact ⟨fun h => same h.symm, share, hshare, hweight⟩

/-! ### Numbers at positions -/

/-- The number at a position is that of the list of numbers. -/
theorem valueAt_eq_getD (shares : List Share) (index : Nat) :
    valueAt shares index = (shares.map Share.value).getD index 0 := by
  rw [valueAt, List.getD_eq_getElem?_getD, List.getElem?_map]

theorem valueAt_set {shares : List Share} {index : Nat} (inside : index < shares.length)
    (share : Share) (other : Nat) :
    valueAt (shares.set index share) other =
      if other = index then share.value else valueAt shares other := by
  rw [valueAt, List.getElem?_set]
  by_cases same : other = index
  · simp [same, inside]
  · rw [if_neg (fun h => same h.symm), if_neg same, valueAt]

/-! ### The adjustment -/

/-- The adjustment by one unit and then by more: the heaviest share moves, if it may. -/
theorem settle_succ_eq_ok_iff {adjustment : Int} {units : Nat} {shares settled : List Share} :
    settle adjustment (units + 1) shares = .ok settled ↔
      ∃ index, heaviest shares = some index ∧
        FitsDigits (valueAt shares index + adjustment * direction index) ∧
        settle adjustment units
          (shares.set index ⟨valueAt shares index + adjustment * direction index, none⟩) =
            .ok settled := by
  rw [settle]
  cases hpicked : heaviest shares with
  | none => simp
  | some index =>
      simp only [bind_eq_ok_iff, checkDigits_eq_ok_iff, Option.some.injEq]
      constructor
      · rintro ⟨adjusted, ⟨hdigits, rfl⟩, h⟩
        exact ⟨index, rfl, hdigits, h⟩
      · rintro ⟨_, rfl, hdigits, h⟩
        exact ⟨_, ⟨hdigits, rfl⟩, h⟩

/-- The shares at the positions in `moved`, candidates all of them, have moved by one step each; the
other shares are as they were. -/
structure Settled (adjustment : Int) (moved : Finset Nat) (shares settled : List Share) : Prop where
  /-- No share is lost. -/
  length_eq : settled.length = shares.length
  /-- Only candidates move. -/
  candidate : ∀ i ∈ moved, Candidate shares i
  /-- A share moves by one step or not at all. -/
  value : ∀ i, valueAt settled i =
    valueAt shares i + if i ∈ moved then adjustment * direction i else 0
  /-- A share that has moved has at most eighteen digits. -/
  digits : ∀ i ∈ moved, FitsDigits (valueAt settled i)

namespace Settled

variable {adjustment : Int} {moved : Finset Nat} {shares settled : List Share}

/-- Nothing has moved. -/
theorem refl (adjustment : Int) (shares : List Share) : Settled adjustment ∅ shares shares where
  length_eq := rfl
  candidate := by simp
  value := by simp
  digits := by simp

/-- After the step of a candidate, which is none any more, other shares move. -/
theorem step {index : Nat} (hcandidate : Candidate shares index)
    (hdigits : FitsDigits (valueAt shares index + adjustment * direction index))
    (h : Settled adjustment moved
      (shares.set index ⟨valueAt shares index + adjustment * direction index, none⟩) settled) :
    index ∉ moved ∧ Settled adjustment (insert index moved) shares settled := by
  have fresh : index ∉ moved := fun hmem => (candidate_set (h.candidate index hmem)).1 rfl
  have hvalue : ∀ i, valueAt settled i =
      valueAt shares i + if i ∈ insert index moved then adjustment * direction i else 0 := by
    intro i
    rw [h.value i, valueAt_set hcandidate.lt_length]
    by_cases same : i = index
    · subst same
      simp [fresh]
    · simp [same]
  refine ⟨fresh, ?_, ?_, hvalue, ?_⟩
  · rw [h.length_eq, List.length_set]
  · rw [Finset.forall_mem_insert]
    exact ⟨hcandidate, fun i hi => (candidate_set (h.candidate i hi)).2⟩
  · rw [Finset.forall_mem_insert]
    refine ⟨?_, h.digits⟩
    rw [hvalue, if_pos (Finset.mem_insert_self _ _)]
    exact hdigits

/-- Every share has at most eighteen digits if it had before. -/
theorem fitsDigits (h : Settled adjustment moved shares settled) {i : Nat}
    (before : FitsDigits (valueAt shares i)) : FitsDigits (valueAt settled i) := by
  by_cases hi : i ∈ moved
  · exact h.digits i hi
  · rw [h.value i, if_neg hi, add_zero]
    exact before

/-- The adjustment keeps all numbers to eighteen digits. -/
theorem forall_fitsDigits (h : Settled adjustment moved shares settled)
    (before : ∀ x ∈ shares.map Share.value, FitsDigits x) :
    ∀ x ∈ settled.map Share.value, FitsDigits x := by
  intro x hx
  obtain ⟨i, hi⟩ := List.mem_iff_getElem?.1 hx
  have hat : valueAt settled i = x := by
    rw [valueAt_eq_getD, List.getD_eq_getElem?_getD, hi]
    rfl
  rw [← hat]
  refine h.fitsDigits ?_
  rw [valueAt_eq_getD]
  exact fitsDigits_getD before i

/-- **Every step closes the gap by one unit**, be it of a part or of the total. -/
theorem gap_eq (h : Settled adjustment moved shares settled) :
    gap (settled.map Share.value) = gap (shares.map Share.value) - adjustment * moved.card := by
  have inside : moved ⊆ Finset.range shares.length :=
    fun i hi => Finset.mem_range.2 (h.candidate i hi).lt_length
  have contribution : ∀ i, direction i * valueAt settled i =
      direction i * valueAt shares i + if i ∈ moved then adjustment else 0 := by
    intro i
    rw [h.value i, mul_add, mul_ite, mul_zero, mul_left_comm, direction_mul_self, mul_one]
  have steps : ∑ i ∈ Finset.range shares.length, (if i ∈ moved then adjustment else 0) =
      adjustment * moved.card := by
    rw [← Finset.sum_filter, Finset.filter_mem_eq_inter, Finset.inter_eq_right.2 inside,
      Finset.sum_const, nsmul_eq_mul, mul_comm]
  simp only [gap_eq_sum_direction, List.length_map, h.length_eq, ← valueAt_eq_getD, contribution,
    Finset.sum_add_distrib, steps]
  ring

end Settled

/-- **The whole adjustment** moves as many different candidates as there are units, by one step
each. -/
theorem exists_settled_of_settle {adjustment : Int} {units : Nat} {shares settled : List Share}
    (h : settle adjustment units shares = .ok settled) :
    ∃ moved : Finset Nat, moved.card = units ∧ Settled adjustment moved shares settled := by
  induction units generalizing shares with
  | zero =>
    cases h
    exact ⟨∅, rfl, Settled.refl adjustment settled⟩
  | succ units ih =>
    obtain ⟨index, hpicked, hdigits, h⟩ := settle_succ_eq_ok_iff.1 h
    obtain ⟨moved, hcard, hsettled⟩ := ih h
    obtain ⟨fresh, hstep⟩ := hsettled.step (candidate_of_heaviest hpicked) hdigits
    exact ⟨insert index moved, by rw [Finset.card_insert_of_notMem fresh, hcard], hstep⟩

end DecimalMoney
