import DecimalMoney.Proofs.Amount.Multiples
import DecimalMoney.Proofs.Apportionment.Short

/-!
# Shortcuts of a multiplication

The product of an amount with a decimal takes a shorter way where the decimal is one, minus one, zero
or an integer without places: nothing is rounded then, and no breakdown has to be adjusted.  All of
these are multiples by an integer, and the way over a ratio yields every such multiple, with the same
failure where it has too many digits.

## Main results

* `DecimalMoney.Amount.multiplyRatio_mul_self` : the ratio of a multiple and its divisor multiplies by
  an integer.
* `DecimalMoney.Amount.multiplyInt_neg_one`, `DecimalMoney.Amount.multiplyInt_zero` : a change of
  sign and zero as multiples.
* `DecimalMoney.Amount.multiplyDecimal_eq_multiplyRatio` : the shortcuts do not show.
-/

namespace DecimalMoney.Amount

variable {a : Amount}

/-- Gross value and components of a balanced amount add up. -/
theorem Balanced.gap_eq_zero (balanced : a.Balanced) (breakdown : a.components ≠ []) :
    gap (a.gross :: a.components) = 0 := by
  rw [gap_cons, balanced breakdown, sub_self]

/-! ### Multiples by an integer -/

/-- A multiple by an integer, in which the one is no exception. -/
theorem multiplyInt_eq (hgross : FitsDigits a.gross) (hcomponents : ∀ c ∈ a.components, FitsDigits c)
    (factor : Int) : a.multiplyInt factor =
      if FitsDigits (a.gross * factor) ∧ ∀ c ∈ a.components, FitsDigits (c * factor) then
        .ok { a with gross := a.gross * factor, components := a.components.map (· * factor) }
      else .error .overflow := by
  unfold multiplyInt
  split_ifs with one digits digits
  · simp [one]
  · rw [one] at digits
    simp only [mul_one] at digits
    exact absurd ⟨hgross, hcomponents⟩ digits
  · rw [mapM_checkDigits, if_pos digits.2, ok_bind, checkDigits_of_fitsDigits digits.1]
    rfl
  · rw [mapM_checkDigits]
    split_ifs with components
    · rw [ok_bind, checkDigits_eq_overflow_iff.2 fun gross => digits ⟨gross, components⟩]
      rfl
    · rfl

/-- Minus one times an amount is the amount of opposite sign. -/
theorem multiplyInt_neg_one (hgross : FitsDigits a.gross)
    (hcomponents : ∀ c ∈ a.components, FitsDigits c) : a.multiplyInt (-1) = a.negate := by
  have digits : FitsDigits (a.gross * -1) ∧ ∀ c ∈ a.components, FitsDigits (c * -1) := by
    simp only [mul_neg_one]
    exact ⟨hgross.neg, fun c hc => (hcomponents c hc).neg⟩
  rw [multiplyInt_eq hgross hcomponents, if_pos digits, negate_of_fitsDigits hgross hcomponents,
    opposite]
  simp only [mul_neg_one]

/-- Zero times an amount is zero. -/
theorem multiplyInt_zero (hgross : FitsDigits a.gross)
    (hcomponents : ∀ c ∈ a.components, FitsDigits c) : a.multiplyInt 0 = .ok a.cleared := by
  have digits : FitsDigits (a.gross * 0) ∧ ∀ c ∈ a.components, FitsDigits (c * 0) := by
    simp only [mul_zero]
    exact ⟨fitsDigits_zero, fun _ _ => fitsDigits_zero⟩
  rw [multiplyInt_eq hgross hcomponents, if_pos digits, cleared]
  simp only [mul_zero]

/-! ### Multiples by a ratio -/

/-- A gross value alone is rounded to eighteen digits. -/
theorem scaleTo_of_bare {numerator denominator : Int} (bare : a.components = [])
    (hgross : FitsWord a.gross) (hn : FitsWord numerator) (hd : FitsWord denominator)
    (nonzero : denominator ≠ 0) (currency : Currency) (mode : RoundingMode) :
    a.scaleTo currency numerator denominator mode =
      (mode.roundDigits ((a.gross : ℚ) * numerator / denominator)).map fun gross =>
        { currency, gross, components := [] } := by
  rw [scaleTo, if_pos bare, ← divideProduct_bind_checkDigits hgross hn hd nonzero]
  cases divideProduct a.gross numerator denominator mode <;> rfl

/-- With its components it is apportioned. -/
theorem scaleTo_of_breakdown (breakdown : a.components ≠ []) (currency : Currency)
    (numerator denominator : Int) (mode : RoundingMode) :
    a.scaleTo currency numerator denominator mode =
      (apportion (a.gross :: a.components) numerator denominator mode).map fun scaled =>
        { currency, gross := scaled.headD 0, components := scaled.tail } := by
  rw [scaleTo, if_neg breakdown]
  rfl

section Few

variable (balanced : a.Balanced) (hgross : FitsDigits a.gross)
  (hcomponents : ∀ c ∈ a.components, FitsDigits c) (few : a.components.length ≤ 9)

include balanced hgross hcomponents few

/-- **The ratio of a multiple and its divisor multiplies by an integer**, whatever the mode. -/
theorem multiplyRatio_mul_self {factor denominator : Int} (nonzero : denominator ≠ 0)
    (hn : FitsWord (factor * denominator)) (hd : FitsWord denominator) (mode : RoundingMode) :
    a.multiplyRatio (factor * denominator) denominator mode = a.multiplyInt factor := by
  have hone : factor * denominator = denominator ↔ factor = 1 := mul_eq_right₀ nonzero
  rw [multiplyRatio, if_neg nonzero]
  by_cases one : factor = 1
  · rw [if_pos (hone.2 one), multiplyInt, if_pos one]
  rw [if_neg (hone.not.2 one), multiplyInt_eq hgross hcomponents]
  by_cases bare : a.components = []
  · have alone : (FitsDigits (a.gross * factor) ∧ ∀ c ∈ a.components, FitsDigits (c * factor)) ↔
        FitsDigits (a.gross * factor) := by simp [bare]
    rw [scaleTo_of_bare bare hgross.fitsWord hn hd nonzero, cast_mul_self_div nonzero,
      RoundingMode.roundDigits_intCast, checkDigits, if_congr alone rfl rfl, bare, List.map_nil]
    split_ifs <;> rfl
  · rw [scaleTo_of_breakdown bare, apportion_mul_self nonzero
      (List.forall_mem_cons.2 ⟨hgross, hcomponents⟩) (by rw [List.length_cons]; omega)
      (balanced.gap_eq_zero bare) hn hd, mapM_checkDigits,
      if_congr List.forall_mem_cons rfl rfl]
    split_ifs <;> rfl

/-- **The shortcuts of a multiplication do not show.** -/
theorem multiplyDecimal_eq_multiplyRatio {factor : Decimal} (hfactor : FitsDigits factor.mantissa) :
    a.multiplyDecimal factor = a.multiplyRatio factor.mantissa factor.unit .halfEven := by
  have hunit : FitsWord factor.unit := fitsWord_ten_pow factor.scale_le
  have nonzero : factor.unit ≠ 0 := factor.unit_pos.ne'
  have multiple : ∀ k : Int, factor.mantissa = k * factor.unit →
      a.multiplyRatio factor.mantissa factor.unit .halfEven = a.multiplyInt k := by
    intro k hk
    rw [hk]
    exact multiplyRatio_mul_self balanced hgross hcomponents few nonzero (hk ▸ hfactor.fitsWord)
      hunit .halfEven
  unfold multiplyDecimal
  split_ifs with one minusOne zero whole
  · rw [multiplyRatio, if_neg nonzero, if_pos (Decimal.isOne_iff.1 one)]
  · rw [multiple (-1) (by rw [Decimal.isMinusOne_iff.1 minusOne, neg_one_mul]),
      multiplyInt_neg_one hgross hcomponents]
  · rw [multiple 0 (by rw [Decimal.isZero_iff.1 zero, zero_mul]),
      multiplyInt_zero hgross hcomponents]
  · rw [multiple factor.mantissa (by rw [Decimal.unit, whole, pow_zero, mul_one])]
  · rw [multiplyRatio, if_neg nonzero, if_neg (Decimal.isOne_iff.not.1 one)]

end Few

/-- An invoice times minus one, spelled with two places. -/
theorem multiplyDecimal_eq_multiplyRatio_of_refund :
    ∃ a b : Amount, a.gross = 12450 ∧ a.components = [10000, 1900, 550] ∧
      b.gross = -12450 ∧ b.components = [-10000, -1900, -550] ∧
      a.multiplyDecimal ⟨-100, 2, by decide⟩ = .ok b ∧
      a.multiplyRatio (-100) 100 .halfEven = .ok b := by
  let euro : Currency := ⟨"EUR", 2, by decide +kernel, by decide⟩
  have shortcut : (⟨euro, 12450, [10000, 1900, 550]⟩ : Amount).multiplyDecimal
      ⟨-100, 2, by decide⟩ = .ok ⟨euro, -12450, [-10000, -1900, -550]⟩ := rfl
  refine ⟨_, _, rfl, rfl, rfl, rfl, shortcut, ?_⟩
  rw [← shortcut, multiplyDecimal_eq_multiplyRatio (fun _ => rfl) (by decide) (by decide)
    (by decide) (by decide)]
  rfl

end DecimalMoney.Amount
