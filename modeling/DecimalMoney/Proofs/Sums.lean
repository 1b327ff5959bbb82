import DecimalMoney.Apportionment
import Mathlib

/-!
# Sums of checked integers

A sum that is checked after every term, where it succeeds, is the sum of the integers; the shortfall
of a total is then the difference of integers.  An operation applied to all entries of a list
succeeds when it does on every entry.

## Main definitions

* `DecimalMoney.PartialSumsFit` : the sum of every first part of a list fits a word.
* `DecimalMoney.gap` : the total in front of a list less the sum of its parts, as integers.

## Main results

* `DecimalMoney.mapM_eq_ok_iff`, `DecimalMoney.mapM_ite` : an operation on all entries, entry by
  entry.
* `DecimalMoney.sum_eq_of_wordSum`, `DecimalMoney.gap_eq_of_shortfall`,
  `DecimalMoney.gap_eq_zero_of_checkTotal` : checked sums are sums.
* `DecimalMoney.foldlM_checkWord_of_mapM`, `DecimalMoney.foldlM_checkWord_of_mapM_overflow` : a
  checked sum of results of an operation.
* `DecimalMoney.wordSum_of_partialSumsFit`, `DecimalMoney.wordSum_of_not_partialSumsFit` : the two
  outcomes of a checked sum.
* `DecimalMoney.natAbs_le_natAbs_sum` : numbers of one sign do not cancel in their sum.
* `DecimalMoney.gap_map_mul` : a factor of all numbers is a factor of the gap.
* `DecimalMoney.gap_eq_sum_direction` : the gap as one sum over all positions.
-/

namespace DecimalMoney

/-! ### Operations on all entries -/

/-- Two continuations agree where they do on the result. -/
theorem bind_congr_of_ok {ε α β : Type} {x : Except ε α} {f g : α → Except ε β}
    (h : ∀ a, x = .ok a → f a = g a) : (x >>= f) = (x >>= g) := by
  cases x with
  | error => rfl
  | ok a => exact h a rfl

/-- An operation on all entries of a list succeeds when it does on every entry. -/
theorem mapM_eq_ok_iff {ε α β : Type} {f : α → Except ε β} {l : List α} {r : List β} :
    l.mapM f = .ok r ↔ List.Forall₂ (fun a b => f a = .ok b) l r := by
  induction l generalizing r with
  | nil =>
    rw [List.mapM_nil, List.forall₂_nil_left_iff]
    exact ⟨fun h => by cases h; rfl, fun h => h ▸ rfl⟩
  | cons a l ih =>
    rw [List.mapM_cons, bind_eq_ok_iff, List.forall₂_cons_left_iff]
    refine exists_congr fun b => ?_
    rw [bind_eq_ok_iff]
    constructor
    · rintro ⟨hb, bs, hbs, hr⟩
      cases hr
      exact ⟨bs, hb, ih.1 hbs, rfl⟩
    · rintro ⟨bs, hb, hbs, rfl⟩
      exact ⟨hb, bs, ih.2 hbs, rfl⟩

/-- An operation that succeeds on all entries and is there a function applies that function. -/
theorem eq_map_of_mapM {ε α β : Type} {f : α → Except ε β} {g : α → β} {l : List α} {r : List β}
    (h : l.mapM f = .ok r) (hg : ∀ a ∈ l, ∀ b, f a = .ok b → b = g a) : r = l.map g := by
  have hall := mapM_eq_ok_iff.1 h
  clear h
  induction hall with
  | nil => rfl
  | cons hb _ ih =>
    rw [List.map_cons, hg _ List.mem_cons_self _ hb,
      ih fun a ha => hg a (List.mem_cons_of_mem _ ha)]

/-- What holds of every result on an entry holds of all entries of the resulting list. -/
theorem forall_mem_of_mapM {ε α β : Type} {f : α → Except ε β} {p : β → Prop} {l : List α}
    {r : List β} (h : l.mapM f = .ok r) (hp : ∀ a ∈ l, ∀ b, f a = .ok b → p b) : ∀ b ∈ r, p b := by
  have hall := mapM_eq_ok_iff.1 h
  clear h
  induction hall with
  | nil => simp
  | cons hb _ ih =>
    rw [List.forall_mem_cons]
    exact ⟨hp _ List.mem_cons_self _ hb, ih fun a ha => hp a (List.mem_cons_of_mem _ ha)⟩

/-- Every entry of a list has its result among the results. -/
theorem exists_mem_of_mapM {ε α β : Type} {f : α → Except ε β} {l : List α} {r : List β}
    (h : l.mapM f = .ok r) {a : α} (ha : a ∈ l) : ∃ b ∈ r, f a = .ok b := by
  have hall := mapM_eq_ok_iff.1 h
  clear h
  induction hall with
  | nil => cases ha
  | @cons a' b _ bs hb _ ih =>
    rcases List.mem_cons.1 ha with rfl | ha
    · exact ⟨b, List.mem_cons_self, hb⟩
    · obtain ⟨b', hmem, hb'⟩ := ih ha
      exact ⟨b', List.mem_cons_of_mem _ hmem, hb'⟩

/-- Where an operation on all entries fails, it does so on one of them. -/
theorem exists_mem_of_mapM_error {ε α β : Type} {f : α → Except ε β} {l : List α} {failure : ε}
    (h : l.mapM f = .error failure) : ∃ a ∈ l, f a = .error failure := by
  induction l with
  | nil => cases h
  | cons a l ih =>
    rw [List.mapM_cons] at h
    cases ha : f a with
    | error other =>
      rw [ha] at h
      cases h
      exact ⟨a, List.mem_cons_self, ha⟩
    | ok b =>
      rw [ha, ok_bind] at h
      cases hl : l.mapM f with
      | error other =>
        rw [hl] at h
        cases h
        obtain ⟨a', hmem, ha'⟩ := ih hl
        exact ⟨a', List.mem_cons_of_mem _ hmem, ha'⟩
      | ok bs =>
        rw [hl] at h
        cases h

/-- Operations that agree on all entries of a list agree on the list. -/
theorem mapM_congr_left {ε α β : Type} {f g : α → Except ε β} {l : List α}
    (h : ∀ a ∈ l, f a = g a) : l.mapM f = l.mapM g := by
  induction l with
  | nil => rfl
  | cons a l ih =>
    obtain ⟨ha, hl⟩ := List.forall_mem_cons.1 h
    rw [List.mapM_cons, List.mapM_cons, ha, ih hl]

/-- Results that are changed one by one are changed in the list. -/
theorem mapM_map_right {ε α β γ : Type} (f : α → Except ε β) (g : β → γ) (l : List α) :
    (l.mapM fun a => (f a).map g) = (l.mapM f).map (List.map g) := by
  induction l with
  | nil => rfl
  | cons a l ih =>
    rw [List.mapM_cons, List.mapM_cons, ih]
    cases f a with
    | error failure => rfl
    | ok b => cases l.mapM f <;> rfl

/-- An operation with one condition and one failure has them on the whole list. -/
theorem mapM_ite {ε α β : Type} (p : α → Prop) [DecidablePred p] (f : α → β) (failure : ε)
    (l : List α) : (l.mapM fun a => if p a then Except.ok (f a) else .error failure) =
      if ∀ a ∈ l, p a then .ok (l.map f) else .error failure := by
  induction l with
  | nil => rfl
  | cons a l ih =>
    rw [List.mapM_cons, ih]
    by_cases ha : p a
    · rw [if_pos ha, ok_bind]
      by_cases hl : ∀ b ∈ l, p b
      · rw [if_pos hl, if_pos (List.forall_mem_cons.2 ⟨ha, hl⟩)]
        rfl
      · rw [if_neg hl, if_neg fun hall => hl (List.forall_mem_cons.1 hall).2]
        rfl
    · rw [if_neg ha, if_neg fun hall => ha (List.forall_mem_cons.1 hall).1]
      rfl

/-- Numbers that are checked one by one pass if they all have at most eighteen digits. -/
theorem mapM_checkDigits {α : Type} (f : α → Int) (l : List α) :
    (l.mapM fun a => checkDigits (f a)) =
      if ∀ a ∈ l, FitsDigits (f a) then .ok (l.map f) else .error .overflow := by
  simp only [checkDigits]
  exact mapM_ite (fun a => FitsDigits (f a)) f Failure.overflow l

/-- Numbers that are not checked trap if one of them is no word. -/
theorem mapM_trapWord {α : Type} (f : α → Int) (l : List α) :
    (l.mapM fun a => trapWord (f a)) =
      if ∀ a ∈ l, FitsWord (f a) then .ok (l.map f) else .error .overrun := by
  simp only [trapWord]
  exact mapM_ite (fun a => FitsWord (f a)) f Failure.overrun l

/-- Numbers that are checked one by one have at most eighteen digits. -/
theorem forall_fitsDigits_of_mapM {α : Type} {f : α → Int} {l : List α} {r : List Int}
    (h : l.mapM (fun a => checkDigits (f a)) = .ok r) : ∀ x ∈ r, FitsDigits x := by
  rw [mapM_checkDigits] at h
  split_ifs at h with digits
  cases h
  exact List.forall_mem_map.2 digits

theorem mapM_checkDigits_of_forall {values : List Int} (h : ∀ v ∈ values, FitsDigits v) :
    values.mapM checkDigits = .ok values := by
  rw [mapM_checkDigits fun v => v, if_pos h, List.map_id']

/-- Where one of them has more, the check overflows. -/
theorem mapM_checkDigits_of_not_forall {values : List Int} (h : ¬∀ v ∈ values, FitsDigits v) :
    values.mapM checkDigits = .error .overflow := by
  rw [mapM_checkDigits fun v => v, if_neg h]

/-- Numbers multiplied by a factor, where they keep to eighteen digits. -/
theorem eq_map_mul_of_mapM {values result : List Int} {factor : Int}
    (h : values.mapM (fun v => checkDigits (v * factor)) = .ok result) :
    result = values.map (· * factor) ∧ ∀ x ∈ result, FitsDigits x :=
  ⟨eq_map_of_mapM h fun _ _ _ hx => (checkDigits_eq_ok_iff.1 hx).2, forall_fitsDigits_of_mapM h⟩

/-! ### Checked sums -/

/-- A checked sum of results adds all of them to the integer that it starts from. -/
theorem exists_mapM_of_foldlM_checkWord {α : Type} {f : α → Except Failure Int} {l : List α}
    {start sum : Int}
    (h : l.foldlM (fun sum a => do checkWord (sum + (← f a))) start = .ok sum) :
    ∃ values, l.mapM f = .ok values ∧ sum = start + values.sum := by
  induction l generalizing start with
  | nil =>
    cases h
    exact ⟨[], rfl, (add_zero _).symm⟩
  | cons a l ih =>
    rw [List.foldlM_cons, bind_eq_ok_iff] at h
    obtain ⟨next, hnext, h⟩ := h
    obtain ⟨v, hv, hnext⟩ := bind_eq_ok_iff.1 hnext
    obtain ⟨_, rfl⟩ := checkWord_eq_ok_iff.1 hnext
    obtain ⟨values, hvalues, rfl⟩ := ih h
    refine ⟨v :: values, ?_, by rw [List.sum_cons, add_assoc]⟩
    rw [mapM_eq_ok_iff] at hvalues ⊢
    exact .cons hv hvalues

/-- A checked sum of results is that of the integers that they are. -/
theorem foldlM_checkWord_of_mapM {α : Type} {f : α → Except Failure Int} {l : List α}
    {values : List Int} (h : l.mapM f = .ok values) (start : Int) :
    l.foldlM (fun sum a => do checkWord (sum + (← f a))) start =
      values.foldlM (fun sum v => checkWord (sum + v)) start := by
  have hall := mapM_eq_ok_iff.1 h
  clear h
  induction hall generalizing start with
  | nil => rfl
  | cons hb _ ih =>
    rw [List.foldlM_cons, List.foldlM_cons, hb, ok_bind]
    exact bind_congr_of_ok fun next _ => ih next

/-- It overflows if one of its terms does. -/
theorem foldlM_checkWord_of_mapM_overflow {α : Type} {f : α → Except Failure Int} {l : List α}
    (h : l.mapM f = .error .overflow) (start : Int) :
    l.foldlM (fun sum a => do checkWord (sum + (← f a))) start = .error .overflow := by
  induction l generalizing start with
  | nil => cases h
  | cons a l ih =>
    rw [List.mapM_cons] at h
    rw [List.foldlM_cons]
    cases ha : f a with
    | error failure =>
      rw [ha] at h
      cases h
      rfl
    | ok v =>
      rw [ha, ok_bind] at h
      rw [ok_bind]
      by_cases fits : FitsWord (start + v)
      · rw [checkWord_of_fitsWord fits]
        refine ih ?_ (start + v)
        -- The first term is not the one that overflows.
        cases hl : l.mapM f with
        | error failure =>
          rw [hl] at h
          exact h
        | ok values =>
          rw [hl] at h
          cases h
      · rw [checkWord_of_not_fitsWord fits]
        rfl

/-- A checked sum is the sum. -/
theorem sum_eq_of_wordSum {values : List Int} {sum : Int} (h : wordSum values = .ok sum) :
    sum = values.sum := by
  obtain ⟨terms, hterms, rfl⟩ := exists_mapM_of_foldlM_checkWord (f := Except.ok) h
  have hsame := eq_map_of_mapM (g := id) hterms fun _ _ _ hb => (Except.ok.inj hb).symm
  rw [hsame, List.map_id, zero_add]

/-- A list whose entries have one sign has no entry of larger magnitude than the sum. -/
theorem natAbs_le_natAbs_sum {l : List Int} (h : (∀ x ∈ l, 0 ≤ x) ∨ ∀ x ∈ l, x ≤ 0) :
    ∀ x ∈ l, x.natAbs ≤ l.sum.natAbs := by
  intro x hx
  rcases h with nonneg | nonpos
  · have := List.single_le_sum nonneg x hx
    have := nonneg x hx
    omega
  · have opposite : ∀ y ∈ l.map Neg.neg, 0 ≤ y := by
      intro y hy
      obtain ⟨z, hz, rfl⟩ := List.mem_map.1 hy
      exact neg_nonneg.2 (nonpos z hz)
    have hle := List.single_le_sum opposite (-x) (List.mem_map_of_mem hx)
    rw [← List.sum_neg] at hle
    have := nonpos x hx
    omega

/-! ### Partial sums -/

/-- The sum of every first part of the list fits a word. -/
def PartialSumsFit (values : List Int) : Prop := ∀ k, FitsWord (values.take k).sum

theorem partialSumsFit_nil : PartialSumsFit [] := fun k => by
  rw [List.take_nil, List.sum_nil]
  decide

/-- A checked sum is the sum where all sums on the way fit a word. -/
theorem foldlM_checkWord_of_forall {values : List Int} {start : Int}
    (h : ∀ k, FitsWord (start + (values.take k).sum)) :
    values.foldlM (fun sum v => checkWord (sum + v)) start = .ok (start + values.sum) := by
  induction values generalizing start with
  | nil =>
    rw [List.sum_nil, add_zero]
    rfl
  | cons v values ih =>
    have hfirst : FitsWord (start + v) := by simpa using h 1
    have hrest : ∀ k, FitsWord (start + v + (values.take k).sum) := fun k => by
      simpa [add_assoc] using h (k + 1)
    rw [List.foldlM_cons, checkWord_of_fitsWord hfirst, List.sum_cons, ← add_assoc]
    exact ih hrest

/-- It overflows where one of them does not. -/
theorem foldlM_checkWord_of_not_forall {values : List Int} {start : Int} (hstart : FitsWord start)
    (h : ¬∀ k, FitsWord (start + (values.take k).sum)) :
    values.foldlM (fun sum v => checkWord (sum + v)) start = .error .overflow := by
  induction values generalizing start with
  | nil => exact absurd (fun k => by simpa using hstart) h
  | cons v values ih =>
    rw [List.foldlM_cons]
    by_cases hfirst : FitsWord (start + v)
    · rw [checkWord_of_fitsWord hfirst]
      refine ih hfirst fun hrest => h fun k => ?_
      cases k with
      | zero => simpa using hstart
      | succ k => simpa [add_assoc] using hrest k
    · rw [checkWord, if_neg hfirst]
      rfl

/-- The checked sum of a list, in both cases. -/
theorem wordSum_of_partialSumsFit {values : List Int} (h : PartialSumsFit values) :
    wordSum values = .ok values.sum := by
  have hsum : values.foldlM (fun sum v => checkWord (sum + v)) 0 = .ok (0 + values.sum) :=
    foldlM_checkWord_of_forall fun k => by
      rw [zero_add]
      exact h k
  rwa [zero_add] at hsum

theorem wordSum_of_not_partialSumsFit {values : List Int} (h : ¬PartialSumsFit values) :
    wordSum values = .error .overflow :=
  foldlM_checkWord_of_not_forall (by decide) fun hall => h fun k => by
    have hk := hall k
    rwa [zero_add] at hk

/-- Where there is a checked sum, all sums on the way fit a word. -/
theorem partialSumsFit_of_wordSum {values : List Int} {sum : Int} (h : wordSum values = .ok sum) :
    PartialSumsFit values := by
  by_contra unfit
  rw [wordSum_of_not_partialSumsFit unfit] at h
  cases h

/-- Numbers of eighteen digits have partial sums that are not larger than all of them together can
be. -/
theorem abs_sum_take_le {values : List Int} (h : ∀ v ∈ values, FitsDigits v) (k : Nat) :
    |(values.take k).sum| ≤ values.length * maxMantissa := by
  have hk : ∀ v ∈ values.take k, FitsDigits v := fun v hv => h v (List.mem_of_mem_take hv)
  have above := List.sum_le_card_nsmul (values.take k) maxMantissa fun v hv => (hk v hv).2
  have below := List.card_nsmul_le_sum (values.take k) (-maxMantissa) fun v hv => (hk v hv).1
  have few : (values.take k).length ≤ values.length := List.length_take_le' k values
  rw [nsmul_eq_mul] at above below
  unfold maxMantissa maxScale at *
  rw [abs_le]
  omega

/-- Nine numbers of eighteen digits have partial sums that fit a word. -/
theorem partialSumsFit_of_length_le {values : List Int} (h : ∀ v ∈ values, FitsDigits v)
    (short : values.length ≤ 9) : PartialSumsFit values := by
  intro k
  have bound := abs_le.1 (abs_sum_take_le h k)
  unfold maxMantissa maxScale at bound
  unfold FitsWord
  omega

/-! ### Gaps -/

/-- The total in front of a list less the sum of its parts. -/
def gap (values : List Int) : Int := values.headD 0 - values.tail.sum

@[simp] theorem gap_cons (total : Int) (parts : List Int) :
    gap (total :: parts) = total - parts.sum := rfl

/-- There is no gap when the total is the sum of its parts. -/
theorem gap_eq_zero_iff {values : List Int} :
    gap values = 0 ↔ values.headD 0 = values.tail.sum := sub_eq_zero

/-- A checked shortfall is the gap. -/
theorem gap_eq_of_shortfall {values : List Int} {missing : Int}
    (h : shortfall values = .ok missing) : missing = gap values := by
  cases values with
  | nil =>
    cases h
    rfl
  | cons total parts =>
    rw [shortfall, bind_eq_ok_iff] at h
    obtain ⟨sum, hsum, h⟩ := h
    obtain ⟨_, rfl⟩ := checkWord_eq_ok_iff.1 h
    rw [sum_eq_of_wordSum hsum, gap_cons]

/-- Where there is a checked shortfall, it and all sums on the way fit a word. -/
theorem fits_of_shortfall {total missing : Int} {parts : List Int}
    (h : shortfall (total :: parts) = .ok missing) : PartialSumsFit parts ∧ FitsWord missing := by
  obtain ⟨sum, hsum, h⟩ := bind_eq_ok_iff.1 h
  obtain ⟨hword, rfl⟩ := checkWord_eq_ok_iff.1 h
  exact ⟨partialSumsFit_of_wordSum hsum, hword⟩

/-- Numbers that pass the check add up. -/
theorem gap_eq_zero_of_checkTotal {values : List Int} (h : checkTotal values = .ok ()) :
    gap values = 0 := by
  rw [checkTotal, bind_eq_ok_iff] at h
  obtain ⟨missing, hmissing, h⟩ := h
  split_ifs at h with zero
  · rw [← gap_eq_of_shortfall hmissing, zero]

/-- A factor of all numbers is a factor of the gap. -/
theorem gap_map_mul (factor : Int) (values : List Int) :
    gap (values.map (· * factor)) = gap values * factor := by
  cases values with
  | nil => simp [gap]
  | cons total parts =>
    rw [List.map_cons, gap_cons, gap_cons, List.sum_map_mul_right, List.map_id', sub_mul]

/-! ### Positions -/

/-- The sum of a list over its positions. -/
theorem sum_range_getD (values : List Int) :
    ∑ i ∈ Finset.range values.length, values.getD i 0 = values.sum := by
  induction values with
  | nil => rfl
  | cons v values ih =>
    rw [List.length_cons, Finset.sum_range_succ', List.sum_cons, add_comm]
    exact congrArg (v + ·) ih

/-- Entries of at most eighteen digits, and the zero beyond them. -/
theorem fitsDigits_getD {values : List Int} (h : ∀ x ∈ values, FitsDigits x) (i : Nat) :
    FitsDigits (values.getD i 0) := by
  rw [List.getD_eq_getElem?_getD]
  cases hi : values[i]? with
  | none => exact fitsDigits_zero
  | some x => exact h x (List.mem_of_getElem? hi)

/-- A step at any position, in the direction in which the position enters, is a step of one. -/
@[simp] theorem direction_mul_self (i : Nat) : direction i * direction i = 1 := by
  unfold direction
  split_ifs <;> rfl

/-- The gap is what all positions contribute: the parts lower it, the total raises it. -/
theorem gap_eq_sum_direction (values : List Int) :
    gap values = -∑ i ∈ Finset.range values.length, direction i * values.getD i 0 := by
  cases values with
  | nil => rfl
  | cons total parts =>
    have hparts : ∑ i ∈ Finset.range parts.length, direction (i + 1) * parts.getD i 0 =
        parts.sum := by
      rw [← sum_range_getD parts]
      exact Finset.sum_congr rfl fun i _ => by simp [direction]
    have hsum := Finset.sum_range_succ' (fun i => direction i * (total :: parts).getD i 0)
      parts.length
    simp only [List.getD_cons_succ, List.getD_cons_zero, hparts] at hsum
    rw [List.length_cons, hsum, gap_cons, direction, if_pos rfl]
    ring

end DecimalMoney
