import DecimalMoney.Decimal.Basic
import Mathlib

/-!
# Comparison on words

A comparison of scaled integers looks up a power of ten, subtracts at the smaller scale and, if that
leaves nothing, multiplies and subtracts at the larger one, all of it without a check.  The order of
these steps keeps the numbers small: signs have been compared before the first difference, and where
that vanishes the product is a part of the other mantissa.  One case is left: a number between minus
one and zero, in units of the smaller scale, is truncated to zero, and then the least word, which has
no opposite, is subtracted from zero.

## Main definitions

* `DecimalMoney.ComparisonFits` : no step of a comparison leaves the words or the table.
* `DecimalMoney.SubtractsLeastWord` : the case in which a step does.
* `DecimalMoney.Decimal.HasOpposite` : the mantissa is a word other than the least one.

## Main results

* `DecimalMoney.subtractsLeastWord_iff` : where the coarse difference leaves the words.
* `DecimalMoney.comparisonFits_iff` : no other step ever does.
* `DecimalMoney.scaledOrder_of_subtractsLeastWord` : there the comparison overruns.
-/

namespace DecimalMoney

/-- The steps of a comparison stay within words, and within the table of powers of ten. -/
structure ComparisonFits (m₁ : Int) (s₁ : Nat) (m₂ : Int) (s₂ : Nat) : Prop where
  /-- There is a power of ten for the difference of the scales. -/
  power : powersOfTen[max s₁ s₂ - min s₁ s₂]? = some (10 ^ (max s₁ s₂ - min s₁ s₂))
  /-- For equal signs the coarse difference fits. -/
  coarse : m₁.sign = m₂.sign → FitsWord (coarseDifference m₁ s₁ m₂ s₂)
  /-- Where it vanishes the products fit. -/
  products : coarseDifference m₁ s₁ m₂ s₂ = 0 →
    FitsWord (m₁ * 10 ^ (s₂ - s₁)) ∧ FitsWord (m₂ * 10 ^ (s₁ - s₂))
  /-- So does their difference. -/
  fine : coarseDifference m₁ s₁ m₂ s₂ = 0 → FitsWord (fineDifference m₁ s₁ m₂ s₂)

section Truncation

variable (m : Int) (k : Nat)

/-- A remainder is not larger than the dividend. -/
theorem natAbs_tmod_le (n : Int) : (m.tmod n).natAbs ≤ m.natAbs := by
  rw [Int.natAbs_tmod]
  exact Nat.mod_le _ _

/-- It is smaller than the divisor. -/
theorem natAbs_tmod_lt {n : Int} (nonzero : n ≠ 0) : (m.tmod n).natAbs < n.natAbs := by
  rw [Int.natAbs_tmod]
  exact Nat.mod_lt _ (Int.natAbs_pos.2 nonzero)

/-- A truncated quotient lies between zero and the dividend. -/
theorem tdiv_ten_pow_between : (0 ≤ m → 0 ≤ m.tdiv (10 ^ k) ∧ m.tdiv (10 ^ k) ≤ m) ∧
    (m ≤ 0 → m ≤ m.tdiv (10 ^ k) ∧ m.tdiv (10 ^ k) ≤ 0) := by
  have hpower := ten_pow_pos k
  have hle : ∀ n : Int, 0 ≤ n → 0 ≤ n.tdiv (10 ^ k) ∧ n.tdiv (10 ^ k) ≤ n :=
    fun n hn => ⟨Int.tdiv_nonneg hn hpower.le, Int.tdiv_le_self _ hn⟩
  refine ⟨hle m, fun hm => ?_⟩
  have := hle (-m) (by omega)
  rw [Int.neg_tdiv] at this
  omega

/-- What a quotient stands for lies between zero and the dividend. -/
theorem tdiv_ten_pow_mul_between :
    (0 ≤ m → 0 ≤ m.tdiv (10 ^ k) * 10 ^ k ∧ m.tdiv (10 ^ k) * 10 ^ k ≤ m) ∧
    (m ≤ 0 → m ≤ m.tdiv (10 ^ k) * 10 ^ k ∧ m.tdiv (10 ^ k) * 10 ^ k ≤ 0) := by
  have hpower := ten_pow_pos k
  have hle : ∀ n : Int, 0 ≤ n → 0 ≤ n.tdiv (10 ^ k) * 10 ^ k ∧ n.tdiv (10 ^ k) * 10 ^ k ≤ n := by
    intro n hn
    have hrest := Int.tdiv_mul_add_tmod n (10 ^ k)
    have hnonneg := Int.tmod_nonneg (10 ^ k) hn
    exact ⟨mul_nonneg (Int.tdiv_nonneg hn hpower.le) hpower.le, by omega⟩
  refine ⟨hle m, fun hm => ?_⟩
  have := hle (-m) (by omega)
  rw [Int.neg_tdiv, neg_mul] at this
  omega

/-- It lies less than a power of ten from the dividend. -/
theorem abs_tdiv_ten_pow_mul_sub_lt : |m.tdiv (10 ^ k) * 10 ^ k - m| < 10 ^ k := by
  have hpower := ten_pow_pos k
  have hrest := Int.tdiv_mul_add_tmod m (10 ^ k)
  have hsmall : (m.tmod (10 ^ k)).natAbs < (10 ^ k : Int).natAbs := natAbs_tmod_lt m hpower.ne'
  rw [abs_lt]
  omega

/-- A negative number is truncated to zero where it lies above minus the divisor. -/
theorem tdiv_ten_pow_eq_zero_iff (negative : m < 0) : m.tdiv (10 ^ k) = 0 ↔ -10 ^ k < m := by
  have hpower := ten_pow_pos k
  have hmagnitude : (m.tdiv (10 ^ k)).natAbs = m.natAbs / (10 ^ k : Int).natAbs :=
    Int.natAbs_tdiv m (10 ^ k)
  rw [← Int.natAbs_eq_zero, hmagnitude, Nat.div_eq_zero_iff]
  omega

end Truncation

variable {m₁ m₂ : Int} {s₁ s₂ : Nat}

/-- The second number is the least word, and the first one, of larger scale, lies between zero and
minus one unit of it, so that it is truncated to zero. -/
def SubtractsLeastWord (m₁ : Int) (s₁ : Nat) (m₂ : Int) (s₂ : Nat) : Prop :=
  s₂ < s₁ ∧ m₂ = -0x8000000000000000 ∧ -10 ^ (s₁ - s₂) < m₁ ∧ m₁ < 0

instance (m₁ : Int) (s₁ : Nat) (m₂ : Int) (s₂ : Nat) :
    Decidable (SubtractsLeastWord m₁ s₁ m₂ s₂) :=
  inferInstanceAs (Decidable (_ ∧ _))

/-- **Where the coarse difference leaves the words**: of numbers of one sign it does so where the
least word is subtracted from zero. -/
theorem subtractsLeastWord_iff (h₁ : FitsWord m₁) (h₂ : FitsWord m₂) :
    SubtractsLeastWord m₁ s₁ m₂ s₂ ↔
      m₁.sign = m₂.sign ∧ ¬FitsWord (coarseDifference m₁ s₁ m₂ s₂) := by
  have hone : ∀ m : Int, m.tdiv (10 ^ 0) = m := Int.tdiv_one
  constructor
  · rintro ⟨smaller, rfl, above, negative⟩
    refine ⟨by rw [Int.sign_eq_neg_one_of_neg negative]; rfl, ?_⟩
    rw [coarseDifference, (tdiv_ten_pow_eq_zero_iff m₁ _ negative).2 above,
      Nat.sub_eq_zero_of_le smaller.le, hone]
    decide
  · rintro ⟨signs, large⟩
    obtain ⟨above₁, below₁⟩ := tdiv_ten_pow_between m₁ (s₁ - s₂)
    obtain ⟨above₂, below₂⟩ := tdiv_ten_pow_between m₂ (s₂ - s₁)
    unfold coarseDifference FitsWord at *
    -- Numbers of one sign differ by no more than the larger of their magnitudes.
    have negative : m₁ < 0 := by
      by_contra nonneg
      have : 0 ≤ m₂ := Int.sign_nonneg_iff.1 (signs ▸ Int.sign_nonneg_iff.2 (not_lt.1 nonneg))
      omega
    have : m₂ ≤ 0 := Int.sign_nonpos_iff.1 (signs ▸ Int.sign_nonpos_iff.2 negative.le)
    have truncated : m₁.tdiv (10 ^ (s₁ - s₂)) = 0 := by omega
    have smaller : s₂ < s₁ := by
      by_contra larger
      rw [Nat.sub_eq_zero_of_le (not_lt.1 larger), hone] at truncated
      omega
    exact ⟨smaller, by omega, (tdiv_ten_pow_eq_zero_iff m₁ _ negative).1 truncated, negative⟩

/-- Where the coarse difference vanishes, the products and their difference fit: the mantissa of the
smaller scale is the other one, truncated. -/
theorem products_fit (h₁ : FitsWord m₁) (h₂ : FitsWord m₂)
    (near : max s₁ s₂ - min s₁ s₂ ≤ maxScale) (same : coarseDifference m₁ s₁ m₂ s₂ = 0) :
    (FitsWord (m₁ * 10 ^ (s₂ - s₁)) ∧ FitsWord (m₂ * 10 ^ (s₁ - s₂))) ∧
      FitsWord (fineDifference m₁ s₁ m₂ s₂) := by
  have self : ∀ m : Int, m.tdiv (10 ^ 0) = m ∧ m * 10 ^ 0 = m :=
    fun m => ⟨Int.tdiv_one m, Int.mul_one m⟩
  rw [coarseDifference, sub_eq_zero] at same
  unfold fineDifference
  rcases le_total s₁ s₂ with le | le
  · rw [Nat.sub_eq_zero_of_le le, (self m₁).1] at same
    rw [Nat.sub_eq_zero_of_le le, (self m₂).2, same]
    have between := tdiv_ten_pow_mul_between m₂ (s₂ - s₁)
    have close := abs_lt.1 (abs_tdiv_ten_pow_mul_sub_lt m₂ (s₂ - s₁))
    have power := fitsWord_ten_pow (n := s₂ - s₁) (by omega)
    unfold FitsWord at *
    omega
  · rw [Nat.sub_eq_zero_of_le le, (self m₂).1] at same
    rw [Nat.sub_eq_zero_of_le le, (self m₁).2, ← same]
    have between := tdiv_ten_pow_mul_between m₁ (s₁ - s₂)
    have close := abs_lt.1 (abs_tdiv_ten_pow_mul_sub_lt m₁ (s₁ - s₂))
    have power := fitsWord_ten_pow (n := s₁ - s₂) (by omega)
    unfold FitsWord at *
    omega

/-- **No other step of a comparison leaves the words.** -/
theorem comparisonFits_iff (h₁ : FitsWord m₁) (h₂ : FitsWord m₂)
    (near : max s₁ s₂ - min s₁ s₂ ≤ maxScale) :
    ComparisonFits m₁ s₁ m₂ s₂ ↔ ¬SubtractsLeastWord m₁ s₁ m₂ s₂ := by
  rw [subtractsLeastWord_iff h₁ h₂, not_and, not_not]
  refine ⟨ComparisonFits.coarse, fun coarse => ⟨getElem?_powersOfTen near, coarse, ?_, ?_⟩⟩
  · exact fun same => (products_fit h₁ h₂ near same).1
  · exact fun same => (products_fit h₁ h₂ near same).2

/-- **Where the least word is subtracted from zero, a comparison overruns.** -/
theorem scaledOrder_of_subtractsLeastWord (h : SubtractsLeastWord m₁ s₁ m₂ s₂)
    (h₁ : FitsWord m₁) (near : max s₁ s₂ - min s₁ s₂ ≤ maxScale) :
    scaledOrder m₁ s₁ m₂ s₂ = .error .overrun := by
  have least : FitsWord m₂ := by
    rw [h.2.1]
    decide
  obtain ⟨signs, large⟩ := (subtractsLeastWord_iff h₁ least).1 h
  obtain ⟨smaller, -, -, negative⟩ := h
  rw [scaledOrder, if_neg (not_not.2 signs), if_neg negative.ne, if_neg smaller.ne',
    tabledPower_of_le near, trapWord_of_not_fitsWord large]
  rfl

/-! ### Decimals -/

namespace Decimal

/-- The mantissa is a word other than the least one, so that its sign can be changed. -/
structure HasOpposite (x : Decimal) : Prop where
  word : FitsWord x.mantissa
  opposite : FitsWord (-x.mantissa)

/-- Two decimals are compared within the words and the table. -/
theorem HasOpposite.comparisonFits {x y : Decimal} (hx : x.HasOpposite) (hy : y.HasOpposite) :
    ComparisonFits x.mantissa x.scale y.mantissa y.scale := by
  have hscales := x.scale_le
  have hscales' := y.scale_le
  rw [comparisonFits_iff hx.word hy.word (by omega)]
  rintro ⟨-, least, -⟩
  have opposite := hy.opposite
  rw [least] at opposite
  exact absurd opposite (by decide)

end Decimal

end DecimalMoney
