import DecimalMoney.Amount.Balance
import DecimalMoney.Proofs.Amount.Multiples
import DecimalMoney.Proofs.Apportionment.Apportioned
import DecimalMoney.Proofs.Rounding.Excess

/-!
# Gross values of scaled amounts

Where an amount with a breakdown is multiplied by a ratio, its gross value is rounded like all its
components, and like them it is a candidate for the adjustment.  So the gross value is not always
the one that the amount gets without its breakdown.  It is moved only where a component was rounded
in the other direction, and then to the other neighbour of the exact product.

## Main results

* `DecimalMoney.cast_gap_roundedApart` : the gap to be closed is a difference of what rounding adds.
* `DecimalMoney.exists_opposite_of_toward` : where the total is a candidate, a part was rounded in
  the other direction.
* `DecimalMoney.Amount.gross_of_multiplyRatio` : the gross value of an amount with a breakdown that
  is multiplied by a ratio.
-/

namespace DecimalMoney

open TruncatedQuotient

section Total

variable {total : Int} {parts : List Int} {numerator denominator : Int} {mode : RoundingMode}

/-! ### Gaps of rounded numbers -/

/-- **The gap that rounding leaves** is what it adds to the total less what it adds to the parts. -/
theorem cast_gap_roundedApart (adds_up : gap (total :: parts) = 0) (numerator denominator : Int)
    (mode : RoundingMode) :
    (gap (roundedApart (total :: parts) numerator denominator mode) : ℚ) =
      mode.excess ((total : ℚ) * numerator / denominator) -
        (parts.map fun p : Int => mode.excess ((p : ℚ) * numerator / denominator)).sum := by
  have hsum : (parts.map fun p : Int => (p : ℚ) * numerator / denominator).sum =
      (total : ℚ) * numerator / denominator := by
    rw [gap_cons, sub_eq_zero] at adds_up
    simp only [div_eq_mul_inv, List.sum_map_mul_right]
    rw [adds_up, Int.cast_list_sum]
  have hparts := mode.sum_map_round (parts.map fun p : Int => (p : ℚ) * numerator / denominator)
  rw [List.map_map, List.map_map, hsum] at hparts
  rw [roundedApart, List.map_cons, gap_cons, Int.cast_sub]
  simp only [Function.comp_def] at hparts
  rw [hparts, RoundingMode.excess]
  ring

/-- **The total is a candidate only against a part.** If it was rounded in the direction of the gap
then one of the parts was rounded in the other direction: the gap is a whole unit or more, and the
total alone accounts for less. -/
theorem exists_opposite_of_toward (adds_up : gap (total :: parts) = 0)
    (toward : 0 < mode.excess ((total : ℚ) * numerator / denominator) *
      gap (roundedApart (total :: parts) numerator denominator mode)) :
    ∃ p ∈ parts, mode.excess ((total : ℚ) * numerator / denominator) *
      mode.excess ((p : ℚ) * numerator / denominator) < 0 := by
  by_contra! same
  have hgap := cast_gap_roundedApart adds_up numerator denominator mode
  set e := mode.excess ((total : ℚ) * numerator / denominator)
  set missing := gap (roundedApart (total :: parts) numerator denominator mode)
  have small : |e| < 1 := mode.abs_excess_lt_one _
  have nonzero : e ≠ 0 := left_ne_zero_of_mul toward.ne'
  have unit : (1 : ℚ) ≤ |(missing : ℚ)| := by
    have : missing ≠ 0 := by exact_mod_cast right_ne_zero_of_mul toward.ne'
    exact_mod_cast Int.one_le_abs this
  have others : 0 ≤ (parts.map fun p : Int =>
      e * mode.excess ((p : ℚ) * numerator / denominator)).sum := by
    refine List.sum_nonneg fun x hx => ?_
    obtain ⟨p, hp, rfl⟩ := List.mem_map.1 hx
    exact same p hp
  -- no part adds to `e * missing`, so it is at most a square, and that is below `|e|`
  have upper : e * missing ≤ |e| * |e| := by
    rw [abs_mul_abs_self, hgap, mul_sub, ← List.sum_map_mul_left]
    exact sub_le_self _ others
  have lower : |e| ≤ e * missing := by
    rw [← abs_of_pos toward, abs_mul]
    exact le_mul_of_one_le_right (abs_nonneg e) unit
  exact absurd (lower.trans upper) (not_le.2 (mul_lt_of_lt_one_left (abs_pos.2 nonzero) small))

/-! ### The total of an apportionment -/

/-- A total that moves toward its exact number was rounded in the direction of the gap. -/
theorem excess_mul_gap_pos {q : TruncatedQuotient} (h : q.remainder < q.divisor) {missing : Int}
    (toward : 0 < deviation q (mode.round q.value) * (missing.sign * direction 0)) :
    0 < mode.excess q.value * missing := by
  have hsign : deviation q (mode.round q.value) * (missing.sign * direction 0) =
      SignType.sign (mode.excess q.value * missing) := by
    rw [deviation_round h, ← neg_sub, Left.sign_neg, sign_mul, SignType.coe_mul, Int.sign_eq_sign,
      direction, if_pos rfl]
    simp [RoundingMode.excess]
  rw [hsign] at toward
  rcases lt_trichotomy (mode.excess q.value * missing) 0 with below | equal | above
  · simp [sign_neg below] at toward
  · simp [equal] at toward
  · exact above

/-- Only numbers that add up are apportioned. -/
theorem gap_eq_zero_of_apportion {values result : List Int}
    (h : apportion values numerator denominator mode = .ok result) : gap values = 0 := by
  obtain ⟨_, hadds, _⟩ := bind_eq_ok_iff.1 h
  exact gap_eq_zero_of_checkTotal hadds

/-- **The total of an apportionment** is its own rounding, unless a part was rounded in the other
direction. -/
theorem exists_opposite_of_apportion {result : List Int} (nonzero : denominator ≠ 0)
    (words : ∀ v ∈ total :: parts, FitsWord v) (hn : FitsWord numerator) (hd : FitsWord denominator)
    (h : apportion (total :: parts) numerator denominator mode = .ok result)
    (differs : result.headD 0 ≠ mode.round ((total : ℚ) * numerator / denominator)) :
    ∃ p ∈ parts, mode.excess ((total : ℚ) * numerator / denominator) *
      mode.excess ((p : ℚ) * numerator / denominator) < 0 := by
  obtain ⟨_, moved, settled, hcard, hsettled, rfl⟩ :=
    exists_settled_of_apportion nonzero words hn hd h
  have hmem : 0 ∈ moved := by
    rw [← getD_ne_iff_mem hcard hsettled, getD_roundedApart (Nat.zero_lt_succ _)]
    rwa [List.headD_eq_head?_getD, List.head?_eq_getElem?] at differs
  have hstep := toward_of_mem hsettled nonzero (Nat.zero_lt_succ _) hmem
  rw [List.getD_cons_zero] at hstep
  have toward := excess_mul_gap_pos (remainder_ofRatio_lt total numerator nonzero) hstep
  rw [value_ofRatio total numerator nonzero] at toward
  exact exists_opposite_of_toward (gap_eq_zero_of_apportion h) toward

end Total

namespace Amount

variable {a b : Amount} {numerator denominator : Int} {mode : RoundingMode}

/-! ### Gross values -/

/-- A gross value times a ratio of equals stays what it is. -/
theorem divideProduct_self {gross : Int} (hgross : FitsWord gross) (hd : FitsWord denominator)
    (nonzero : denominator ≠ 0) (mode : RoundingMode) :
    divideProduct gross denominator denominator mode = .ok gross ∧
      (gross : ℚ) * denominator / denominator = gross := by
  have hcast : (denominator : ℚ) ≠ 0 := by exact_mod_cast nonzero
  have hratio : (gross : ℚ) * denominator / denominator = gross := mul_div_cancel_right₀ _ hcast
  refine ⟨?_, hratio⟩
  rw [divideProduct, divideProductOn_eq_roundWord .installed hgross hd hd nonzero, hratio,
    RoundingMode.roundWord, RoundingMode.round_intCast,
    if_pos ⟨hgross, .inr (Int.fract_intCast gross)⟩]

/-- The gross value of `b` is that of `a`, an amount with a breakdown, multiplied by a ratio. -/
structure GrossScaled (a : Amount) (numerator denominator : Int) (mode : RoundingMode)
    (b : Amount) : Prop where
  /-- The product alone can be rounded. -/
  rounded : divideProduct a.gross numerator denominator mode =
    .ok (mode.round ((a.gross : ℚ) * numerator / denominator))
  /-- That is the gross value without the breakdown. -/
  bare : { a with components := [] }.multiplyRatio numerator denominator mode =
    .ok { a with gross := mode.round ((a.gross : ℚ) * numerator / denominator), components := [] }
  /-- With it the gross value is a neighbour of the exact product too. -/
  near : |(b.gross : ℚ) - (a.gross : ℚ) * numerator / denominator| < 1
  /-- It is the other neighbour only where a component was rounded in the other direction. -/
  opposite : b.gross ≠ mode.round ((a.gross : ℚ) * numerator / denominator) →
    ∃ c ∈ a.components, mode.excess ((a.gross : ℚ) * numerator / denominator) *
      mode.excess ((c : ℚ) * numerator / denominator) < 0

/-- Where all components are rounded in the direction of the gross value, that keeps its own
rounding. -/
theorem GrossScaled.eq_round (h : GrossScaled a numerator denominator mode b)
    (same : ∀ c ∈ a.components, 0 ≤ mode.excess ((a.gross : ℚ) * numerator / denominator) *
      mode.excess ((c : ℚ) * numerator / denominator)) :
    b.gross = mode.round ((a.gross : ℚ) * numerator / denominator) := by
  by_contra differs
  obtain ⟨c, hc, other⟩ := h.opposite differs
  exact (same c hc).not_gt other

/-- The products of two numbers of one sign with a ratio have one sign. -/
theorem ratio_mul_ratio_nonneg {x y : Int} (h : 0 ≤ x * y) :
    0 ≤ (x : ℚ) * numerator / denominator * ((y : ℚ) * numerator / denominator) := by
  have hxy : (0 : ℚ) ≤ x * y := by exact_mod_cast h
  calc (0 : ℚ) ≤ x * y * (numerator / denominator) ^ 2 := mul_nonneg hxy (sq_nonneg _)
    _ = (x : ℚ) * numerator / denominator * ((y : ℚ) * numerator / denominator) := by ring

/-- The gross value that a ratio gives an amount with a breakdown. -/
theorem grossScaled_of_multiplyRatio (hgross : FitsWord a.gross)
    (hcomponents : ∀ c ∈ a.components, FitsWord c) (hn : FitsWord numerator)
    (hd : FitsWord denominator) (breakdown : a.components ≠ [])
    (h : a.multiplyRatio numerator denominator mode = .ok b) :
    GrossScaled a numerator denominator mode b := by
  unfold multiplyRatio at h
  split_ifs at h with zero same
  · cases h
    subst same
    obtain ⟨hrounded, hratio⟩ := divideProduct_self hgross hd zero mode
    refine ⟨?_, ?_, ?_, ?_⟩
    · rw [hratio, RoundingMode.round_intCast, hrounded]
    · rw [hratio, RoundingMode.round_intCast, multiplyRatio, if_neg zero, if_pos rfl]
    · rw [hratio, sub_self, abs_zero]
      exact one_pos
    · rw [hratio, RoundingMode.round_intCast]
      exact fun differs => absurd rfl differs
  · obtain ⟨_, ⟨bare, _⟩ | ⟨_, happortion⟩⟩ := scaleTo_cases h
    · exact absurd bare breakdown
    have words : ∀ v ∈ a.gross :: a.components, FitsWord v :=
      List.forall_mem_cons.2 ⟨hgross, hcomponents⟩
    have hrounded := divideProduct_of_apportion zero words hn hd happortion List.mem_cons_self
    obtain ⟨hdigits, _⟩ := exists_settled_of_apportion zero words hn hd happortion
    have happortioned := apportioned_of_apportion zero words hn hd happortion
    refine ⟨hrounded, ?_, (List.forall₂_cons.1 (happortioned.forall₂_near zero)).1,
      exists_opposite_of_apportion zero words hn hd happortion⟩
    have hgross := hdigits _ (List.mem_map_of_mem List.mem_cons_self)
    rw [multiplyRatio, if_neg zero, if_neg same, scaleTo, if_pos rfl, hrounded, ok_bind,
      checkDigits_of_fitsDigits hgross]
    rfl

/-- **Gross values under a ratio.** An amount with a breakdown that is multiplied by a ratio gets
the gross value that it would get without the breakdown, or else the other neighbour of the exact
product, where a component was rounded in the other direction.  So the breakdown does not matter to
the modes that have only one direction or do not round, nor to those that look at the sign if no
component has the sign opposite to the gross value. -/
theorem gross_of_multiplyRatio (hgross : FitsWord a.gross)
    (hcomponents : ∀ c ∈ a.components, FitsWord c) (hn : FitsWord numerator)
    (hd : FitsWord denominator) (breakdown : a.components ≠ [])
    (h : a.multiplyRatio numerator denominator mode = .ok b) :
    GrossScaled a numerator denominator mode b ∧
    (mode = .ceiling ∨ mode = .floor ∨ mode = .unnecessary ∨
        (mode = .up ∨ mode = .down) ∧ (∀ c ∈ a.components, 0 ≤ a.gross * c) →
      b.gross = mode.round ((a.gross : ℚ) * numerator / denominator)) := by
  have hscaled := grossScaled_of_multiplyRatio hgross hcomponents hn hd breakdown h
  refine ⟨hscaled, fun directed => hscaled.eq_round fun c hc => ?_⟩
  rcases directed with rfl | rfl | rfl | ⟨signed, same⟩
  · exact RoundingMode.excess_mul_excess_nonneg (.inl rfl)
  · exact RoundingMode.excess_mul_excess_nonneg (.inr (.inl rfl))
  · have nonzero : denominator ≠ 0 := by
      rintro rfl
      cases h
    have hword := hscaled.rounded
    rw [divideProduct, divideProductOn_eq_roundWord .installed hgross hn hd nonzero] at hword
    rw [RoundingMode.excess_eq_zero_of_roundWord hword, zero_mul]
  · exact RoundingMode.excess_mul_excess_nonneg
      (.inr (.inr ⟨signed, ratio_mul_ratio_nonneg (same c hc)⟩))

/-- A quarter of two equal components, which are rounded to even and then adjusted. -/
theorem gross_of_multiplyRatio_of_halves :
    ∃ a b : Amount, a.components = [50, 50] ∧ a.multiplyRatio 1 4 .halfEven = .ok b ∧
      b.gross = 25 ∧ b.components = [13, 12] ∧ GrossScaled a 1 4 .halfEven b := by
  let euro : Currency := ⟨"EUR", 2, by decide +kernel, by decide⟩
  have quarter : (⟨euro, 100, [50, 50]⟩ : Amount).multiplyRatio 1 4 .halfEven =
      .ok ⟨euro, 25, [13, 12]⟩ := by decide +kernel
  exact ⟨_, _, rfl, quarter, rfl, rfl,
    (gross_of_multiplyRatio (by decide) (by decide) (by decide) (by decide) (by decide) quarter).1⟩

/-- A tenth of six in two equal components.  Alone it would be rounded up to one, but both
components are rounded down to zero, and of all three numbers the gross value has the largest
relative error. -/
theorem exists_gross_ne_bare :
    ∃ a b bare : Amount, a.Balanced ∧ a.components = [3, 3] ∧
      a.multiplyRatio 1 10 .halfEven = .ok b ∧
      { a with components := [] }.multiplyRatio 1 10 .halfEven = .ok bare ∧
      divideProduct a.gross 1 10 .halfEven = .ok bare.gross ∧ b.gross ≠ bare.gross := by
  let euro : Currency := ⟨"EUR", 2, by decide +kernel, by decide⟩
  have scaled : (⟨euro, 6, [3, 3]⟩ : Amount).multiplyRatio 1 10 .halfEven =
      .ok ⟨euro, 0, [0, 0]⟩ := by decide +kernel
  have bare : (⟨euro, 6, []⟩ : Amount).multiplyRatio 1 10 .halfEven = .ok ⟨euro, 1, []⟩ := by
    decide +kernel
  exact ⟨_, _, _, fun _ => rfl, rfl, scaled, bare, by decide +kernel, by decide⟩

end Amount

end DecimalMoney
