import DecimalMoney.Proofs.Amount.Shortcuts
import DecimalMoney.Proofs.Apportionment.Reflection

/-!
# Scaled opposites

A refund is split as the invoice was: the opposite amount, scaled by the same ratio and rounded by
the reflected mode, is the opposite of the scaled amount.  This holds of the breakdown, of the
overflows and of the refusals to round, whatever the ratio is.

## Main results

* `DecimalMoney.Amount.scaleTo_opposite` : an opposite amount is scaled to the opposite.
* `DecimalMoney.Amount.multiplyRatio_negate` : the product with a ratio commutes with the sign.
-/

namespace DecimalMoney.Amount

section Few

variable {a : Amount} (balanced : a.Balanced) (hgross : FitsDigits a.gross)
  (hcomponents : ∀ c ∈ a.components, FitsDigits c) (few : a.components.length ≤ 9)
  {numerator denominator : Int} (hn : FitsWord numerator) (hd : FitsWord denominator)

include balanced hgross hcomponents few hn hd

/-- An opposite amount is scaled to the opposite. -/
theorem scaleTo_opposite (nonzero : denominator ≠ 0) (currency : Currency) (mode : RoundingMode) :
    a.opposite.scaleTo currency numerator denominator mode.reflect =
      (a.scaleTo currency numerator denominator mode).map opposite := by
  by_cases bare : a.components = []
  · have still : a.opposite.components = [] := by rw [opposite, bare, List.map_nil]
    rw [scaleTo_of_bare still hgross.neg.fitsWord hn hd nonzero,
      scaleTo_of_bare bare hgross.fitsWord hn hd nonzero, opposite, Int.cast_neg, neg_mul, neg_div,
      RoundingMode.roundDigits_reflect_neg]
    cases mode.roundDigits ((a.gross : ℚ) * numerator / denominator) <;> rfl
  · have still : a.opposite.components ≠ [] := by
      rwa [opposite, ne_eq, List.map_eq_nil_iff]
    have numbers : a.opposite.gross :: a.opposite.components =
        (a.gross :: a.components).map Neg.neg := rfl
    rw [scaleTo_of_breakdown still, scaleTo_of_breakdown bare, numbers, apportion_map_neg
      (List.forall_mem_cons.2 ⟨hgross, hcomponents⟩) (by rw [List.length_cons]; omega)
      (balanced.gap_eq_zero bare) hn hd nonzero]
    cases apportion (a.gross :: a.components) numerator denominator mode with
    | error failure => rfl
    | ok scaled => cases scaled <;> rfl

/-- So is its product with a ratio. -/
theorem multiplyRatio_opposite (mode : RoundingMode) :
    a.opposite.multiplyRatio numerator denominator mode.reflect =
      (a.multiplyRatio numerator denominator mode).map opposite := by
  unfold multiplyRatio
  split_ifs with zero one
  · rfl
  · rfl
  · exact scaleTo_opposite balanced hgross hcomponents few hn hd zero a.currency mode

omit balanced few hn hd in
/-- A product with a ratio can change its sign. -/
theorem negate_of_multiplyRatio {mode : RoundingMode} {b : Amount}
    (h : a.multiplyRatio numerator denominator mode = .ok b) : b.negate = .ok b.opposite := by
  unfold multiplyRatio at h
  split_ifs at h
  · cases h
    exact negate_of_fitsDigits hgross hcomponents
  · obtain ⟨_, ⟨_, bare, hdigits, _⟩ | ⟨_, happortion⟩⟩ := scaleTo_cases h
    · exact negate_of_fitsDigits hdigits (bare ▸ List.forall_mem_nil _)
    · obtain ⟨hdigits, hparts⟩ := List.forall_mem_cons.1 (fitsDigits_of_apportion happortion)
      exact negate_of_fitsDigits hdigits hparts

/-- **A product with a ratio commutes with the sign of the amount**, if the mode is reflected: where
one of the two ways fails, the other one does with the same failure.  Neither change of sign
fails. -/
theorem multiplyRatio_negate (mode : RoundingMode) :
    (do (← a.negate).multiplyRatio numerator denominator mode.reflect) =
      (do (← a.multiplyRatio numerator denominator mode).negate) ∧
    (∃ b, a.negate = .ok b) ∧
    ∀ b, a.multiplyRatio numerator denominator mode = .ok b → ∃ c, b.negate = .ok c := by
  have opposite_ok := negate_of_fitsDigits hgross hcomponents
  have scaled_ok : ∀ b, a.multiplyRatio numerator denominator mode = .ok b →
      b.negate = .ok b.opposite := fun _ => negate_of_multiplyRatio hgross hcomponents
  refine ⟨?_, ⟨_, opposite_ok⟩, fun b hb => ⟨_, scaled_ok b hb⟩⟩
  rw [opposite_ok, ok_bind, multiplyRatio_opposite balanced hgross hcomponents few hn hd]
  cases hscaled : a.multiplyRatio numerator denominator mode with
  | error failure => rfl
  | ok b => exact (scaled_ok b hscaled).symm

end Few

/-- Thirds that are all rounded up, two units too many: the first two are lowered, and in the
opposite amount they are raised. -/
theorem multiplyRatio_negate_at_thirds :
    ∃ a opposite b refund : Amount, a.gross = 1000 ∧ a.components = [333, 333, 334] ∧
      b.gross = 1 ∧ b.components = [0, 0, 1] ∧ a.multiplyRatio 1 1000 .ceiling = .ok b ∧
      a.negate = .ok opposite ∧ b.negate = .ok refund ∧
      opposite.multiplyRatio 1 1000 .floor = .ok refund := by
  let euro : Currency := ⟨"EUR", 2, by decide +kernel, by decide⟩
  have scaled : (⟨euro, 1000, [333, 333, 334]⟩ : Amount).multiplyRatio 1 1000 .ceiling =
      .ok ⟨euro, 1, [0, 0, 1]⟩ := by decide +kernel
  have signs : (⟨euro, 1000, [333, 333, 334]⟩ : Amount).negate =
      .ok ⟨euro, -1000, [-333, -333, -334]⟩ := by decide +kernel
  have refund : (⟨euro, 1, [0, 0, 1]⟩ : Amount).negate = .ok ⟨euro, -1, [0, 0, -1]⟩ := by
    decide +kernel
  refine ⟨_, _, _, _, rfl, rfl, rfl, rfl, scaled, signs, refund, ?_⟩
  obtain ⟨ways, -⟩ := multiplyRatio_negate (a := ⟨euro, 1000, [333, 333, 334]⟩) (fun _ => rfl)
    (by decide) (by decide) (by decide) (by decide : FitsWord 1) (by decide : FitsWord 1000)
    .ceiling
  rwa [signs, scaled, ok_bind, ok_bind, refund] at ways

end DecimalMoney.Amount
