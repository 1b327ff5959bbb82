import DecimalMoney.Power
import Mathlib

/-!
# Positive normal floats

A binary float of 64 bits is unpacked into a sign, a mantissa and an exponent, and what an operation
makes of them is rounded and packed again.  Away from the ends of the range a positive number is
rounded to a mantissa of 53 bits.  Such a number survives the packing, and it misses the number it
was rounded from by at most one part in `2 ^ 52`.

## Main definitions

* `DecimalMoney.Binary64.Normal` : positive numbers with a mantissa of 53 bits.
* `DecimalMoney.Binary64.Normal.value` : the rational number that is meant.

## Main results

* `DecimalMoney.Binary64.Normal.unpack_pack` : packing loses nothing.
* `DecimalMoney.Binary64.exists_normal_roundWithAccuracy` : a mantissa that is long enough is
  rounded to a normal number near by.
* `DecimalMoney.Binary64.exists_normal_round` : so is any positive number in the range.
-/

namespace DecimalMoney.Binary64

open Float.Model Float.Model.UnpackedFloat

/-! ### Normal numbers -/

/-- A positive number with a mantissa of 53 bits and an exponent of the format. -/
structure Normal where
  mantissa : Nat
  exponent : Int
  /-- The mantissa has 53 bits. -/
  log2_mantissa : mantissa.log2 = 52
  le_exponent : -1074 ≤ exponent
  exponent_le : exponent ≤ 971

namespace Normal

theorem mantissa_ne_zero (x : Normal) : x.mantissa ≠ 0 := by
  intro h
  simpa [h] using x.log2_mantissa

theorem mantissa_pos (x : Normal) : 0 < x.mantissa := Nat.pos_of_ne_zero x.mantissa_ne_zero

theorem mantissa_mem (x : Normal) : 2 ^ 52 ≤ x.mantissa ∧ x.mantissa < 2 ^ 53 :=
  (Nat.log2_eq_iff x.mantissa_ne_zero).1 x.log2_mantissa

/-- The number as an unpacked float. -/
def unpacked (x : Normal) : UnpackedFloat :=
  .finite .positive x.mantissa x.exponent x.mantissa_pos

/-- The rational number that is meant. -/
def value (x : Normal) : ℚ := x.mantissa * 2 ^ x.exponent

theorem value_pos (x : Normal) : 0 < x.value :=
  mul_pos (by exact_mod_cast x.mantissa_pos) (zpow_pos two_pos _)

theorem two_zpow_le_value (x : Normal) : (2 : ℚ) ^ (52 + x.exponent) ≤ x.value := by
  rw [value, zpow_add₀ two_ne_zero]
  exact mul_le_mul_of_nonneg_right (by exact_mod_cast x.mantissa_mem.1) (zpow_pos two_pos _).le

theorem value_lt_two_zpow (x : Normal) : x.value < (2 : ℚ) ^ (53 + x.exponent) := by
  rw [value, zpow_add₀ two_ne_zero]
  exact mul_lt_mul_of_pos_right (by exact_mod_cast x.mantissa_mem.2) (zpow_pos two_pos _)

/-! ### Packing -/

/-- The sign comes back out of its bit. -/
private theorem unpackSign_packComponents (sign : Sign) (exponent : BitVec 11)
    (fraction : BitVec 52) :
    unpackSign (packComponents Format.binary64 sign exponent fraction) = sign.toBitVec := by
  change (sign.toBitVec ++ exponent ++ fraction).extractLsb' 63 1 = sign.toBitVec
  rw [BitVec.extractLsb'_append_eq_of_le (by decide),
    BitVec.extractLsb'_append_eq_of_le (by decide)]
  cases sign <;> rfl

/-- The bit in front of the mantissa is not packed, and is put back. -/
private theorem toNat_leading_append (x : Normal) :
    (1#1 ++ BitVec.ofNat 52 x.mantissa).toNat = x.mantissa := by
  obtain ⟨lower, upper⟩ := x.mantissa_mem
  rw [BitVec.toNat_append, ← Nat.shiftLeft_add_eq_or_of_lt (BitVec.isLt _), BitVec.toNat_ofNat]
  simp only [BitVec.toNat_ofNat, Nat.shiftLeft_eq]
  omega

/-- The exponent that is packed: it counts from the smallest one, and never has all bits equal. -/
private theorem biased_mem (x : Normal) :
    0 < (x.exponent + 1023 + 52).toNat ∧ (x.exponent + 1023 + 52).toNat < 2047 := by
  have lower := x.le_exponent
  have upper := x.exponent_le
  omega

/-- **Packing loses nothing.** -/
theorem unpack_pack (x : Normal) : (Float.Model.pack x.unpacked).unpack = x.unpacked := by
  obtain ⟨positive, small⟩ := x.biased_mem
  have biased : (BitVec.ofNat 11 (x.exponent + 1023 + 52).toNat).toNat =
      (x.exponent + 1023 + 52).toNat := by
    rw [BitVec.toNat_ofNat, Nat.mod_eq_of_lt (by omega)]
  have finite : BitVec.ofNat 11 (x.exponent + 1023 + 52).toNat ≠ -1#11 := by
    rw [ne_eq, ← BitVec.toNat_inj, biased]
    exact small.ne
  have normal : BitVec.ofNat 11 (x.exponent + 1023 + 52).toNat ≠ 0#11 := by
    rw [ne_eq, ← BitVec.toNat_inj, biased]
    exact positive.ne'
  have packed : UnpackedFloat.pack Format.binary64 x.unpacked =
      packComponents Format.binary64 .positive (BitVec.ofNat 11 (x.exponent + 1023 + 52).toNat)
        (BitVec.ofNat 52 x.mantissa) := by
    change (if 2048 ≤ (x.exponent + 1023 + 52).toNat + 1 then _ else
      if x.mantissa.log2 + 1 = 53 then _ else _) = _
    rw [if_neg (by omega), if_pos (by rw [x.log2_mantissa])]
    rfl
  change UnpackedFloat.unpack Format.binary64 (UnpackedFloat.pack Format.binary64 x.unpacked) = _
  rw [packed, UnpackedFloat.unpack]
  simp only [unpackMantissa_packComponents, unpackExponent_packComponents,
    unpackSign_packComponents]
  rw [if_neg finite, if_neg normal]
  simp only [biased, toNat_leading_append]
  refine (UnpackedFloat.finite.injEq ..).mpr ⟨rfl, rfl, ?_⟩
  change ((x.exponent + 1023 + 52).toNat : Int) - (1023 + 52) = x.exponent
  omega

end Normal

/-! ### Shifts -/

theorem mantissa_shiftRight (m : ExtendedMantissa) (k : Nat) :
    (m >>> k).mantissa = m.mantissa / 2 ^ k := by
  induction k with
  | zero => exact (Nat.div_one _).symm
  | succ k ih =>
    change (m >>> k).mantissa / 2 = m.mantissa / 2 ^ (k + 1)
    rw [ih, Nat.div_div_eq_div_mul, Nat.pow_succ]

theorem mantissa_ofMantissaAndAccuracy (m : Nat) (accuracy : Accuracy) :
    (ExtendedMantissa.ofMantissaAndAccuracy m accuracy).mantissa = m := by
  obtain _ | _ | _ | _ := accuracy <;> rfl

/-- Rounding keeps a mantissa or moves it to the next one. -/
theorem roundedMantissa_mem (m : ExtendedMantissa) :
    m.mantissa ≤ m.roundedMantissa ∧ m.roundedMantissa ≤ m.mantissa + 1 := by
  obtain ⟨m, _ | _, _ | _⟩ := m <;>
    simp [ExtendedMantissa.roundedMantissa, ExtendedMantissa.accuracy, Accuracy.roundToNearestEven]
  omega

/-- A mantissa with `k` bits too many is shifted by them. -/
theorem shiftToTargetExponent_eq {m k : Nat} {e : Int} (log : m.log2 = 52 + k)
    (above : -1074 ≤ e + k) (accuracy : Accuracy) :
    (shiftToTargetExponent Format.binary64 m e accuracy).1.mantissa = m / 2 ^ k ∧
      (shiftToTargetExponent Format.binary64 m e accuracy).2 = e + k := by
  have target : Format.binary64.targetExponent (totalExponent m e) = e + k := by
    simp only [Format.targetExponent, totalExponent, Format.mantissaBits, Format.minExponent, log]
    omega
  have distance : (e + k - e).toNat = k := by omega
  rw [shiftToTargetExponent, target, shiftToExponent]
  simp only [distance, mantissa_shiftRight, mantissa_ofMantissaAndAccuracy, and_self]

theorem log2_shiftLeft {m : Nat} (nonzero : m ≠ 0) (k : Nat) : (m <<< k).log2 = m.log2 + k := by
  have shifted : m <<< k ≠ 0 := by simp [nonzero]
  obtain ⟨lower, upper⟩ := (Nat.log2_eq_iff nonzero).1 rfl
  refine (Nat.log2_eq_iff shifted).2 ⟨?_, ?_⟩ <;> rw [Nat.shiftLeft_eq]
  · rw [Nat.pow_add]
    exact Nat.mul_le_mul_right _ lower
  · rw [Nat.add_right_comm, Nat.pow_add]
    exact Nat.mul_lt_mul_of_pos_right upper (Nat.two_pow_pos k)

/-- A shift of the mantissa and the exponent against each other keeps the value. -/
theorem shiftLeft_mul_zpow (m k : Nat) (e : Int) :
    ((m <<< k : Nat) : ℚ) * 2 ^ (e - k) = m * 2 ^ e := by
  rw [Nat.shiftLeft_eq, zpow_sub₀ two_ne_zero, zpow_natCast]
  push_cast
  field_simp

/-! ### Rounding -/

/-- A mantissa of 53 bits or the next power of two belongs to a normal number. -/
private theorem exists_normal_of_mantissa {r : Nat} {e : Int} (lower : 2 ^ 52 ≤ r)
    (upper : r ≤ 2 ^ 53) (above : -1074 ≤ e) (below : e ≤ 970) :
    ∃ x : Normal, (shiftToTargetExponent Format.binary64 r e .exact).1.mantissa = x.mantissa ∧
      (shiftToTargetExponent Format.binary64 r e .exact).2 = x.exponent ∧
      x.value = r * 2 ^ e := by
  rcases upper.lt_or_eq with fits | rfl
  · have log : r.log2 = 52 := (Nat.log2_eq_iff (by omega)).2 ⟨lower, fits⟩
    obtain ⟨hmantissa, hexponent⟩ := shiftToTargetExponent_eq (k := 0) log (by simpa) .exact
    refine ⟨⟨r, e, log, above, by omega⟩, ?_, ?_, rfl⟩
    · rw [hmantissa, pow_zero, Nat.div_one]
    · rw [hexponent, Int.natCast_zero, Int.add_zero]
  · obtain ⟨hmantissa, hexponent⟩ := shiftToTargetExponent_eq (m := 2 ^ 53) (k := 1) (e := e)
      Nat.log2_two_pow (by omega) .exact
    refine ⟨⟨2 ^ 52, e + 1, Nat.log2_two_pow, by omega, by omega⟩, hmantissa, hexponent, ?_⟩
    rw [Normal.value, zpow_add_one₀ two_ne_zero]
    push_cast
    ring

/-- The bits that rounding gives up are small against the mantissa. -/
private theorem abs_rounded_sub_le {m r k : Nat} (log : m.log2 = 52 + k) (nonzero : m ≠ 0)
    (lower : m / 2 ^ k ≤ r) (upper : r ≤ m / 2 ^ k + 1) :
    |(r : ℚ) * 2 ^ k - m| ≤ m / 2 ^ 52 := by
  have floor_le : m / 2 ^ k * 2 ^ k ≤ m := Nat.div_mul_le_self m _
  have lt_next : m < 2 ^ k * (m / 2 ^ k + 1) := Nat.lt_mul_div_succ m (Nat.two_pow_pos k)
  have hlower := Nat.mul_le_mul_right (2 ^ k) lower
  have hupper := Nat.mul_le_mul_right (2 ^ k) upper
  rw [Nat.add_mul, Nat.one_mul] at hupper
  rw [Nat.mul_add, Nat.mul_one, Nat.mul_comm] at lt_next
  have above : ((r * 2 ^ k : Nat) : ℚ) ≤ (m + 2 ^ k : Nat) := by exact_mod_cast (by omega)
  have below : (m : ℚ) ≤ (r * 2 ^ k + 2 ^ k : Nat) := by exact_mod_cast (by omega)
  have unit : (2 : ℚ) ^ k ≤ m / 2 ^ 52 := by
    have hself := Nat.log2_self_le nonzero
    rw [log, Nat.pow_add] at hself
    rw [le_div_iff₀' (by positivity)]
    exact_mod_cast hself
  push_cast at above below
  rw [abs_le]
  constructor <;> linarith

/-- **A mantissa of at least 53 bits is rounded to a normal number near by.** What is known of the
bits behind the mantissa does not matter for that. -/
theorem exists_normal_roundWithAccuracy {m k : Nat} {e : Int} (log : m.log2 = 52 + k)
    (above : -1074 ≤ e + k) (below : e + k ≤ 970) (accuracy : Accuracy) :
    ∃ x : Normal, roundWithAccuracy Format.binary64 .positive m e accuracy = x.unpacked ∧
      |x.value - m * 2 ^ e| ≤ m * 2 ^ e / 2 ^ 52 := by
  have nonzero : m ≠ 0 := by
    rintro rfl
    rw [Nat.log2_zero] at log
    omega
  obtain ⟨hmantissa, hexponent⟩ := shiftToTargetExponent_eq log above accuracy
  have hrounded := roundedMantissa_mem (shiftToTargetExponent Format.binary64 m e accuracy).1
  rw [hmantissa] at hrounded
  have bits : 2 ^ 52 ≤ m / 2 ^ k ∧ m / 2 ^ k < 2 ^ 53 := by
    obtain ⟨lower, upper⟩ := (Nat.log2_eq_iff nonzero).1 log
    rw [Nat.le_div_iff_mul_le (Nat.two_pow_pos k), Nat.div_lt_iff_lt_mul (Nat.two_pow_pos k),
      ← Nat.pow_add, ← Nat.pow_add, Nat.add_right_comm 52 1 k]
    exact ⟨lower, upper⟩
  obtain ⟨x, hx, hx', hvalue⟩ := exists_normal_of_mantissa (bits.1.trans hrounded.1)
    (hrounded.2.trans bits.2) above below
  refine ⟨x, ?_, ?_⟩
  · rw [roundWithAccuracy]
    simp only [hexponent, hx, hx', dif_neg x.mantissa_ne_zero]
    rfl
  · have hpow : (0 : ℚ) < 2 ^ e := zpow_pos two_pos e
    have hscaled : ∀ r : ℚ, r * 2 ^ (e + k) - m * 2 ^ e = (r * 2 ^ k - m) * 2 ^ e := by
      intro r
      rw [zpow_add₀ two_ne_zero, zpow_natCast]
      ring
    rw [hvalue, hscaled, abs_mul, abs_of_pos hpow, mul_div_right_comm]
    exact mul_le_mul_of_nonneg_right (abs_rounded_sub_le log nonzero hrounded.1 hrounded.2) hpow.le

/-- **A positive number in the range is rounded to a normal number near by.** A mantissa that is too
short is filled up first. -/
theorem exists_normal_round {m : Nat} {e : Int} (nonzero : m ≠ 0) (above : -1022 ≤ m.log2 + e)
    (below : m.log2 + e ≤ 1022) :
    ∃ x : Normal, UnpackedFloat.round Format.binary64 .positive m e = x.unpacked ∧
      |x.value - m * 2 ^ e| ≤ m * 2 ^ e / 2 ^ 52 := by
  have target : Format.binary64.targetExponent (totalExponent m e) = m.log2 + e - 52 := by
    simp only [Format.targetExponent, totalExponent, Format.mantissaBits, Format.minExponent]
    omega
  have short : (e - (m.log2 + e - 52)).toNat = 52 - m.log2 := by omega
  have log : (m <<< (52 - m.log2)).log2 = 52 + (m.log2 - 52) := by
    rw [log2_shiftLeft nonzero]
    omega
  obtain ⟨x, hx, near⟩ := exists_normal_roundWithAccuracy (e := e - (52 - m.log2 : Nat)) log
    (by omega) (by omega) .exact
  rw [shiftLeft_mul_zpow] at near
  refine ⟨x, ?_, near⟩
  rw [UnpackedFloat.round, target, decreaseExponent, short]
  exact hx

end DecimalMoney.Binary64
