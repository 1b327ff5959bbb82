import DecimalMoney.Proofs.Binary64.Normal

/-!
# Arithmetic of positive normal floats

Words become floats, and positive normal floats are added, subtracted and divided, with a small
relative error.  The numbers are kept far from the ends of the range, so that every result is a
positive normal float again as long as the exact result is positive.

## Main definitions

* `DecimalMoney.Binary64.Represents` : a float is a normal number.
* `DecimalMoney.Binary64.Normal.Approximates` : a normal number is near to a rational one.
* `DecimalMoney.Binary64.Normal.Moderate` : a normal number is far from the ends of the range.

## Main results

* `DecimalMoney.Binary64.Represents.pos` : a float that represents a normal number is positive.
* `DecimalMoney.Binary64.exists_represents_word` : words as floats.
* `DecimalMoney.Binary64.exists_represents_add`, `DecimalMoney.Binary64.exists_represents_sub`,
  `DecimalMoney.Binary64.exists_represents_div` : the operations.
-/

namespace DecimalMoney.Binary64

open Float.Model Float.Model.UnpackedFloat

/-! ### Floats that represent normal numbers -/

/-- The float is the normal number. -/
def Represents (f : Float) (x : Normal) : Prop := f.toModel.unpack = x.unpacked

/-- Packing makes a float of a normal number. -/
theorem represents_of_unpacked_eq {u : UnpackedFloat} {x : Normal} (h : u = x.unpacked) :
    Represents (.ofModel (Float.Model.pack u)) x := by
  rw [h]
  exact x.unpack_pack

/-- It is above zero. -/
theorem Represents.pos {f : Float} {x : Normal} (h : Represents f x) : 0 < f := by
  refine decide_eq_true (?_ : (UnpackedFloat.lt (Float.toModel 0).unpack f.toModel.unpack : Bool))
  rw [h]
  rfl

/-- Adding zero changes nothing. -/
theorem Represents.zero_add {f : Float} {x : Normal} (h : Represents f x) :
    Represents (0 + f) x := by
  refine represents_of_unpacked_eq ?_
  rw [h]
  rfl

/-- The normal number one. -/
def Normal.one : Normal := ⟨2 ^ 52, -52, Nat.log2_two_pow, by decide, by decide⟩

@[simp] theorem Normal.value_one : Normal.one.value = 1 := by
  rw [Normal.value, Normal.one]
  norm_num

theorem represents_one : Represents 1 Normal.one := rfl

namespace Normal

/-- The relative error is at most one part in `2 ^ 51`. -/
def Approximates (x : Normal) (v : ℚ) : Prop := |x.value - v| ≤ v / 2 ^ 51

/-- Rounding to a mantissa of 53 bits is near enough. -/
theorem approximates_of_abs_sub_le {x : Normal} {v : ℚ} (h : |x.value - v| ≤ v / 2 ^ 52) :
    x.Approximates v := by
  have nonneg := (abs_nonneg _).trans h
  exact h.trans (by linarith)

/-- It is less than one percent. -/
theorem Approximates.bounds {x : Normal} {v : ℚ} (near : x.Approximates v) :
    99 / 100 * v ≤ x.value ∧ x.value ≤ 101 / 100 * v := by
  have nonneg : 0 ≤ v / 2 ^ 51 := (abs_nonneg _).trans near
  have small : v / 2 ^ 51 ≤ v / 100 := by
    norm_num at nonneg ⊢
    linarith
  rw [Approximates, abs_le] at near
  constructor <;> linarith

/-- The exponent is far from the smallest and the greatest one. -/
def Moderate (x : Normal) : Prop := -128 ≤ x.exponent ∧ x.exponent ≤ 64

theorem moderate_one : one.Moderate := ⟨by decide, by decide⟩

/-- Near numbers of a moderate size are moderate normal numbers. -/
theorem Approximates.moderate {x : Normal} {v : ℚ} (near : x.Approximates v)
    (lower : 1 / 0x100000000000000000 ≤ v) (upper : v ≤ 0x100000000000000000) : x.Moderate := by
  obtain ⟨hlower, hupper⟩ := near.bounds
  have above : (2 : ℚ) ^ (-69 : Int) < 2 ^ (53 + x.exponent) := by
    refine lt_of_le_of_lt ?_ x.value_lt_two_zpow
    norm_num at lower ⊢
    linarith
  have below : (2 : ℚ) ^ (52 + x.exponent) ≤ 2 ^ (69 : Int) := by
    refine x.two_zpow_le_value.trans ?_
    norm_num at upper ⊢
    linarith
  rw [zpow_lt_zpow_iff_right₀ one_lt_two] at above
  rw [zpow_le_zpow_iff_right₀ one_lt_two] at below
  exact ⟨by omega, by omega⟩

end Normal

/-! ### Words -/

/-- **A positive word as a float.** -/
theorem exists_represents_word {w : UInt64} (positive : 0 < w.toNat) :
    ∃ x : Normal, Represents w.toFloat x ∧ x.Moderate ∧ x.Approximates w.toNat := by
  have log : w.toNat.log2 < 64 := (Nat.log2_lt positive.ne').2 w.toNat_lt
  obtain ⟨x, hx, near⟩ := exists_normal_round (e := 0) positive.ne' (by omega) (by omega)
  rw [zpow_zero, mul_one] at near
  replace near := Normal.approximates_of_abs_sub_le near
  have lower : (1 : ℚ) ≤ w.toNat := by exact_mod_cast positive
  have upper : (w.toNat : ℚ) < 0x10000000000000000 := by exact_mod_cast w.toNat_lt
  refine ⟨x, represents_of_unpacked_eq ?_, near.moderate (by linarith) (by linarith), near⟩
  rw [UnpackedFloat.ofUInt64, UnpackedFloat.ofNat, UnpackedFloat.ofInt, UnpackedFloat.normalize,
    Int.compare_eq_gt.2 (by omega)]
  exact hx

/-! ### Sums and differences -/

/-- The mantissa at a smaller exponent. -/
def Normal.aligned (x : Normal) (e : Int) : Nat := (decreaseExponent x.mantissa x.exponent e).1

theorem Normal.aligned_mul (x : Normal) {e : Int} (h : e ≤ x.exponent) :
    x.aligned e * 2 ^ e = x.value := by
  have hvalue := shiftLeft_mul_zpow x.mantissa (x.exponent - e).toNat x.exponent
  rwa [show x.exponent - ((x.exponent - e).toNat : Nat) = e by omega] at hvalue

theorem Normal.aligned_pos (x : Normal) (e : Int) : 0 < x.aligned e :=
  Nat.shiftLeft_pos_iff.2 x.mantissa_pos

theorem Normal.aligned_lt (x : Normal) {e : Int} (close : x.exponent ≤ e + 192) :
    x.aligned e < 2 ^ 245 := by
  rw [aligned, decreaseExponent, Nat.shiftLeft_eq]
  calc x.mantissa * 2 ^ (x.exponent - e).toNat
      < 2 ^ 53 * 2 ^ (x.exponent - e).toNat :=
        Nat.mul_lt_mul_of_pos_right x.mantissa_mem.2 (Nat.two_pow_pos _)
    _ ≤ 2 ^ 53 * 2 ^ 192 := Nat.mul_le_mul_left _ (Nat.pow_le_pow_right (by decide) (by omega))
    _ = 2 ^ 245 := rfl

/-- An exact sum or difference is rounded. -/
private theorem exists_normal_normalize {m e : Int} (positive : 0 < m) (small : m < 2 ^ 246)
    (above : -128 ≤ e) (below : e ≤ 64) :
    ∃ x : Normal, normalize Format.binary64 m e .positive = x.unpacked ∧
      x.Approximates (m * 2 ^ e) := by
  have hcast : ((m.toNat : Nat) : ℚ) = m := by exact_mod_cast Int.toNat_of_nonneg positive.le
  have nonzero : m.toNat ≠ 0 := by omega
  have log : m.toNat.log2 < 246 := (Nat.log2_lt nonzero).2 (by omega)
  obtain ⟨x, hx, near⟩ := exists_normal_round (e := e) nonzero (by omega) (by omega)
  rw [hcast] at near
  refine ⟨x, ?_, Normal.approximates_of_abs_sub_le near⟩
  rw [UnpackedFloat.normalize, Int.compare_eq_gt.2 positive]
  exact hx

section Operations

variable {f g : Float} {x y : Normal} (hx : x.Moderate) (hy : y.Moderate)

include hx hy

/-- Both mantissas at the smaller exponent. -/
private theorem aligned_min : -128 ≤ min x.exponent y.exponent ∧ min x.exponent y.exponent ≤ 64 ∧
    x.aligned (min x.exponent y.exponent) < 2 ^ 245 ∧
    y.aligned (min x.exponent y.exponent) < 2 ^ 245 := by
  obtain ⟨lowerX, upperX⟩ := hx
  obtain ⟨lowerY, upperY⟩ := hy
  exact ⟨by omega, by omega, x.aligned_lt (by omega), y.aligned_lt (by omega)⟩

/-- **Sums.** -/
theorem exists_represents_add (hf : Represents f x) (hg : Represents g y) :
    ∃ z : Normal, Represents (f + g) z ∧ z.Approximates (x.value + y.value) := by
  obtain ⟨lower, upper, smallX, smallY⟩ := aligned_min hx hy
  have positive := x.aligned_pos (min x.exponent y.exponent)
  obtain ⟨z, hz, near⟩ := exists_normal_normalize
    (m := x.aligned (min x.exponent y.exponent) + y.aligned (min x.exponent y.exponent))
    (by omega) (by omega) lower upper
  push_cast at near
  rw [add_mul, x.aligned_mul (min_le_left _ _), y.aligned_mul (min_le_right _ _)] at near
  refine ⟨z, represents_of_unpacked_eq ?_, near⟩
  rw [hf, hg]
  exact hz

/-- **Differences.** -/
theorem exists_represents_sub (hf : Represents f x) (hg : Represents g y)
    (below : y.value < x.value) :
    ∃ z : Normal, Represents (f - g) z ∧ z.Approximates (x.value - y.value) := by
  obtain ⟨lower, upper, smallX, smallY⟩ := aligned_min hx hy
  have positive : y.aligned (min x.exponent y.exponent) < x.aligned (min x.exponent y.exponent) := by
    rw [← x.aligned_mul (min_le_left _ y.exponent), ← y.aligned_mul (min_le_right x.exponent _)]
      at below
    exact_mod_cast lt_of_mul_lt_mul_right below (zpow_pos two_pos _).le
  obtain ⟨z, hz, near⟩ := exists_normal_normalize
    (m := x.aligned (min x.exponent y.exponent) - y.aligned (min x.exponent y.exponent))
    (by omega) (by omega) lower upper
  push_cast at near
  rw [sub_mul, x.aligned_mul (min_le_left _ _), y.aligned_mul (min_le_right _ _)] at near
  refine ⟨z, represents_of_unpacked_eq ?_, near⟩
  rw [hf, hg]
  exact hz

/-! ### Quotients -/

/-- A quotient of mantissas is computed to at least 53 bits. -/
private theorem divCore_eq : divCore Format.binary64 x.mantissa x.exponent y.mantissa y.exponent =
    ((x.mantissa <<< 53) / y.mantissa, x.exponent - y.exponent - 53,
      accuracyOfFraction ((x.mantissa <<< 53) % y.mantissa) y.mantissa) := by
  obtain ⟨lowerX, upperX⟩ := hx
  obtain ⟨lowerY, upperY⟩ := hy
  have target : min (x.exponent - y.exponent) (Format.binary64.targetExponent
      (totalExponent x.mantissa x.exponent - totalExponent y.mantissa y.exponent)) =
        x.exponent - y.exponent - 53 := by
    simp only [Format.targetExponent, totalExponent, Format.mantissaBits, Format.minExponent,
      x.log2_mantissa, y.log2_mantissa]
    omega
  rw [divCore, target, show (x.exponent - y.exponent - (x.exponent - y.exponent - 53)).toNat = 53
    by omega]

omit hx hy in
/-- The exact quotient at the exponent at which it is computed. -/
private theorem value_div_value_eq (x y : Normal) : x.value / y.value =
    (x.mantissa <<< 53 : Nat) / y.mantissa * 2 ^ (x.exponent - y.exponent - 53) := by
  have nonzero : (y.mantissa : ℚ) ≠ 0 := by exact_mod_cast y.mantissa_ne_zero
  rw [Normal.value, Normal.value, Nat.shiftLeft_eq, zpow_sub₀ two_ne_zero, zpow_sub₀ two_ne_zero]
  push_cast
  field_simp

omit hx hy in
/-- The quotient of the mantissas has 53 or 54 bits. -/
private theorem quotient_mem (x y : Normal) :
    2 ^ 52 ≤ (x.mantissa <<< 53) / y.mantissa ∧ (x.mantissa <<< 53) / y.mantissa < 2 ^ 54 := by
  obtain ⟨lowerX, upperX⟩ := x.mantissa_mem
  obtain ⟨lowerY, upperY⟩ := y.mantissa_mem
  rw [Nat.le_div_iff_mul_le y.mantissa_pos, Nat.div_lt_iff_lt_mul y.mantissa_pos, Nat.shiftLeft_eq]
  omega

omit hx hy in
/-- It is the exact quotient up to its last bit. -/
private theorem quotient_le_and_lt (x y : Normal) :
    (((x.mantissa <<< 53) / y.mantissa : Nat) : ℚ) ≤ (x.mantissa <<< 53 : Nat) / y.mantissa ∧
      ((x.mantissa <<< 53 : Nat) : ℚ) / y.mantissa <
        ((x.mantissa <<< 53) / y.mantissa : Nat) + 1 := by
  have positive : (0 : ℚ) < y.mantissa := by exact_mod_cast y.mantissa_pos
  refine ⟨Nat.cast_div_le, ?_⟩
  rw [div_lt_iff₀' positive]
  exact_mod_cast Nat.lt_mul_div_succ (x.mantissa <<< 53) y.mantissa_pos

/-- **Quotients.** The mantissas are divided with a remainder, and the quotient is rounded. -/
theorem exists_represents_div (hf : Represents f x) (hg : Represents g y) :
    ∃ z : Normal, Represents (f / g) z ∧ z.Approximates (x.value / y.value) := by
  have hcore := divCore_eq hx hy
  obtain ⟨lowerX, upperX⟩ := hx
  obtain ⟨lowerY, upperY⟩ := hy
  obtain ⟨large, small⟩ := quotient_mem x y
  obtain ⟨floor_le, lt_next⟩ := quotient_le_and_lt x y
  generalize (x.mantissa <<< 53) / y.mantissa = m at *
  have nonzero : m ≠ 0 := by omega
  have log : 52 ≤ m.log2 ∧ m.log2 < 54 :=
    ⟨(Nat.le_log2 nonzero).2 large, (Nat.log2_lt nonzero).2 small⟩
  obtain ⟨z, hz, near⟩ := exists_normal_roundWithAccuracy (m := m) (k := m.log2 - 52)
    (e := x.exponent - y.exponent - 53) (by omega) (by omega) (by omega)
    (accuracyOfFraction ((x.mantissa <<< 53) % y.mantissa) y.mantissa)
  refine ⟨z, represents_of_unpacked_eq ?_, ?_⟩
  · rw [hf, hg, Normal.unpacked, Normal.unpacked, UnpackedFloat.div, hcore]
    exact hz
  · -- the remainder is worth less than a unit of the quotient, and rounding moves it by one
    have hlarge : (2 : ℚ) ^ 52 ≤ m := by exact_mod_cast large
    have hpow : (0 : ℚ) < 2 ^ (x.exponent - y.exponent - 53) := zpow_pos two_pos _
    rw [Normal.Approximates, value_div_value_eq]
    generalize ((x.mantissa <<< 53 : Nat) : ℚ) / y.mantissa = q at *
    generalize (2 : ℚ) ^ (x.exponent - y.exponent - 53) = unit at *
    have lower := mul_le_mul_of_nonneg_right floor_le hpow.le
    have upper := mul_lt_mul_of_pos_right lt_next hpow
    have precision := mul_le_mul_of_nonneg_right hlarge hpow.le
    rw [abs_le] at near ⊢
    constructor <;> linarith

end Operations

end DecimalMoney.Binary64
