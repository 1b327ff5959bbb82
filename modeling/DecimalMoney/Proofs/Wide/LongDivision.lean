import DecimalMoney.Power
import DecimalMoney.Wide.LongDivision
import Mathlib

/-!
# Correctness of the long division

After `k` bits the dividend splits into a prefix of `64 + k` bits, which has been read, and the
`64 - k` bits that follow.  The working pair holds the remainder of the prefix and, in one word, the
unread bits above the quotient of the prefix.  One step of the division keeps this; after 64
steps nothing is left to read.

## Main definitions

* `DecimalMoney.Wide.DivisionState.shifted`, `DecimalMoney.Wide.DivisionState.carry` : the
  remainder with the next bit of the dividend, as a word and the bit that leaves it.
* `DecimalMoney.Wide.DivisionState.Divides` : what the working pair holds after a number of bits.

## Main results

* `DecimalMoney.Wide.DivisionState.toNat_shifted_sub` : a subtraction that wraps around is right.
* `DecimalMoney.Wide.DivisionState.toNat_step` : one step on natural numbers.
* `DecimalMoney.Wide.DivisionState.Divides.step`, `DecimalMoney.Wide.DivisionState.divides_after` :
  the invariant is kept by a step and holds after any number of bits.
* `DecimalMoney.Wide.toNat_divideWide` : the final pair is quotient and remainder.
* `DecimalMoney.Wide.divideWide_exact` : this, and what holds after each bit.
-/

namespace DecimalMoney.Wide

/-- A high word below the divisor makes the quotient fit one word. -/
theorem DoubleWord.toNat_lt_mul {w : DoubleWord} {d : UInt64} (h : w.high < d) :
    w.toNat < d.toNat * UInt64.size := by
  have hlow := w.low.toNat_lt_size
  have hhigh := UInt64.lt_iff_toNat_lt.1 h
  calc w.toNat < w.high.toNat * UInt64.size + UInt64.size := Nat.add_lt_add_left hlow _
    _ = (w.high.toNat + 1) * UInt64.size := by ring
    _ ≤ d.toNat * UInt64.size := Nat.mul_le_mul_right _ hhigh

namespace DivisionState

/-! ### One step -/

/-- Twice the remainder and the next bit of the dividend: what one step divides by `d`. -/
def doubled (s : DivisionState) : Nat :=
  2 * s.remainder.toNat + s.quotient.toNat / 0x8000000000000000

/-- A word shifted by one bit, with another bit in the place that is free. -/
private theorem toNat_shiftLeft_or {x y : UInt64} (hy : y.toNat < 2) :
    ((x <<< 1) ||| y).toNat = 2 * x.toNat % UInt64.size + y.toNat := by
  have hs : (1 : UInt64).toNat % 64 = 1 := rfl
  have hm : x.toNat * 2 % UInt64.size = 2 * (x.toNat % 0x8000000000000000) := by
    simp only [UInt64.size]
    omega
  have hor := Nat.two_pow_add_eq_or_of_lt (i := 1) hy (x.toNat % 0x8000000000000000)
  simp only [Nat.reducePow] at hor
  rw [UInt64.toNat_or, UInt64.toNat_shiftLeft, hs, Nat.shiftLeft_eq, Nat.mul_comm 2, hm, hor]

private theorem toNat_shiftRight_63 (x : UInt64) :
    (x >>> 63).toNat = x.toNat / 0x8000000000000000 := by
  have hs : (63 : UInt64).toNat % 64 = 63 := rfl
  rw [UInt64.toNat_shiftRight, hs, Nat.shiftRight_eq_div_pow]

/-- The next bit of the dividend is a bit. -/
private theorem topBit_lt (x : UInt64) : x.toNat / 0x8000000000000000 < 2 := by
  have h := x.toNat_lt
  omega

/-- The remainder that takes in the next bit of the dividend, as far as it stays in one word. -/
def shifted (s : DivisionState) : UInt64 := (s.remainder <<< 1) ||| (s.quotient >>> 63)

/-- The bit of the remainder for which that word has no room. -/
def carry (s : DivisionState) : UInt64 := s.remainder >>> 63

theorem toNat_shifted (s : DivisionState) :
    s.shifted.toNat =
      2 * s.remainder.toNat % UInt64.size + s.quotient.toNat / 0x8000000000000000 := by
  have hbit := topBit_lt s.quotient
  rw [← toNat_shiftRight_63] at hbit ⊢
  exact toNat_shiftLeft_or hbit

/-- **The bit that leaves the word and the word** are twice the remainder and the next bit. -/
theorem toNat_carry_shifted (s : DivisionState) :
    s.carry.toNat * UInt64.size + s.shifted.toNat = s.doubled := by
  rw [toNat_shifted, carry, toNat_shiftRight_63, doubled]
  simp only [UInt64.size]
  omega

section

variable {d : UInt64} {s : DivisionState} (h : s.remainder < d)

include h

/-- The divisor goes in at most once. -/
theorem doubled_lt : s.doubled < 2 * d.toNat := by
  have hr := UInt64.lt_iff_toNat_lt.1 h
  have hbit := topBit_lt s.quotient
  unfold doubled
  omega

/-- Both ways to see that the divisor goes in: a bit left the remainder, or what stayed of it is
large enough. -/
theorem goesIn_iff : (s.carry = 1 ∨ d ≤ s.shifted) ↔ d.toNat ≤ s.doubled := by
  have hd := d.toNat_lt
  have hdoubled := doubled_lt h
  have hsplit := toNat_carry_shifted s
  have one : (1 : UInt64).toNat = 1 := rfl
  rw [← UInt64.toNat_inj, UInt64.le_iff_toNat_le, one]
  simp only [UInt64.size] at hsplit
  omega

/-- **The subtraction yields the true remainder**, also where a bit has left the word: it wraps
around then, and only then. -/
theorem toNat_shifted_sub (hin : d.toNat ≤ s.doubled) :
    (s.shifted - d).toNat = s.doubled - d.toNat := by
  have hd := d.toNat_lt
  have hdoubled := doubled_lt h
  have hsplit := toNat_carry_shifted s
  rw [UInt64.toNat_sub]
  simp only [UInt64.size] at hsplit
  omega

/-- **One step on natural numbers.** The working pair takes in the next bit and is divided. -/
theorem toNat_step :
    (s.step d).remainder.toNat = s.doubled % d.toNat ∧
      (s.step d).quotient.toNat = 2 * s.quotient.toNat % UInt64.size + s.doubled / d.toNat := by
  have hd := d.toNat_lt
  have hdoubled := doubled_lt h
  have hsplit := toNat_carry_shifted s
  have hstep : s.step d = if s.carry = 1 ∨ d ≤ s.shifted then
      ⟨s.shifted - d, s.quotient <<< 1 ||| 1⟩ else ⟨s.shifted, s.quotient <<< 1⟩ := rfl
  by_cases hin : d.toNat ≤ s.doubled
  · have quotient : s.doubled / d.toNat = 1 := by
      rw [Nat.div_eq_iff (by omega)]
      omega
    have remainder : s.doubled % d.toNat = s.doubled - d.toNat := by
      rw [Nat.mod_eq_sub_mod hin, Nat.mod_eq_of_lt (by omega)]
    rw [hstep, if_pos ((goesIn_iff h).2 hin), quotient, remainder]
    exact ⟨toNat_shifted_sub h hin, toNat_shiftLeft_or (by decide)⟩
  · have small : s.doubled < d.toNat := Nat.lt_of_not_le hin
    rw [hstep, if_neg ((goesIn_iff h).not.2 hin), Nat.div_eq_of_lt small, Nat.mod_eq_of_lt small]
    constructor
    · simp only [UInt64.size] at hsplit ⊢
      omega
    · simpa using toNat_shiftLeft_or (x := s.quotient) (y := 0) (by decide)

end

/-! ### The invariant -/

/-- What the working pair holds after `k` bits of the division of `n` by `d`: the remainder of the
prefix that has been read, and the unread bits above the quotient of that prefix. -/
structure Divides (n : Nat) (d : UInt64) (k : Nat) (s : DivisionState) : Prop where
  remainder : s.remainder.toNat = n / 2 ^ (64 - k) % d.toNat
  quotient : s.quotient.toNat = n % 2 ^ (64 - k) * 2 ^ k + n / 2 ^ (64 - k) / d.toNat

/-- A prefix of one bit more is twice the prefix, plus the bit. -/
theorem div_two_pow_eq (n j : Nat) : n / 2 ^ j = 2 * (n / 2 ^ (j + 1)) + n / 2 ^ j % 2 := by
  have h : n / 2 ^ (j + 1) = n / 2 ^ j / 2 := by rw [Nat.pow_succ, Nat.div_div_eq_div_mul]
  rw [h]
  omega

/-- The quotient of a prefix of `64 + k` bits has `k` bits. -/
theorem prefix_div_lt {n : Nat} {d : UInt64} {k : Nat} (hn : n < d.toNat * UInt64.size)
    (hk : k ≤ 64) : n / 2 ^ (64 - k) / d.toNat < 2 ^ k := by
  refine Nat.div_lt_of_lt_mul (Nat.div_lt_of_lt_mul ?_)
  have size : 2 ^ (64 - k) * 2 ^ k = UInt64.size := by
    rw [← Nat.pow_add, Nat.sub_add_cancel hk]
  calc n < d.toNat * UInt64.size := hn
    _ = 2 ^ (64 - k) * (d.toNat * 2 ^ k) := by rw [← size]; ring

/-- The top bit of a word, and what is left of the word once this bit is shifted out. -/
private theorem topBit_and_rest (bit : Nat) {unread known room : Nat}
    (hroom : unread + room ≤ 0x8000000000000000) (hknown : known < room) :
    (bit * 0x8000000000000000 + unread + known) / 0x8000000000000000 = bit ∧
      2 * (bit * 0x8000000000000000 + unread + known) % UInt64.size = 2 * unread + 2 * known := by
  simp only [UInt64.size]
  omega

/-- The remainder stays below the divisor. -/
theorem Divides.remainder_lt {n : Nat} {d : UInt64} {k : Nat} {s : DivisionState}
    (h : s.Divides n d k) (hd : 0 < d.toNat) : s.remainder < d := by
  rw [UInt64.lt_iff_toNat_lt, h.remainder]
  exact Nat.mod_lt _ hd

/-- **One more bit.** A step takes the working pair from `k` bits to `k + 1`. -/
theorem Divides.step {n : Nat} {d : UInt64} {k : Nat} {s : DivisionState} (h : s.Divides n d k)
    (hd : 0 < d.toNat) (hn : n < d.toNat * UInt64.size) (hk : k < 64) :
    (s.step d).Divides n d (k + 1) := by
  obtain ⟨j, hj⟩ : ∃ j, 64 - k = j + 1 := ⟨63 - k, by omega⟩
  have hj' : 64 - (k + 1) = j := by omega
  have hquotient := prefix_div_lt hn hk.le
  obtain ⟨hr, hq⟩ := h
  obtain ⟨hr', hq'⟩ := toNat_step (Divides.remainder_lt ⟨hr, hq⟩ hd)
  rw [hj] at hr hq hquotient
  -- the word of the quotient is the next bit, the bits after it, and the quotient so far
  have hpow : 2 ^ j * 2 ^ k = 0x8000000000000000 := by
    rw [← Nat.pow_add, show j + k = 63 by omega]
  have hunread : n % 2 ^ (j + 1) * 2 ^ k =
      n / 2 ^ j % 2 * 0x8000000000000000 + n % 2 ^ j * 2 ^ k := by
    rw [Nat.mod_pow_succ, ← hpow]
    ring
  have hroom : n % 2 ^ j * 2 ^ k + 2 ^ k ≤ 0x8000000000000000 := by
    rw [← hpow, ← Nat.succ_mul]
    exact Nat.mul_le_mul_right _ (Nat.mod_lt _ (Nat.two_pow_pos j))
  obtain ⟨htop, hrest⟩ := topBit_and_rest (n / 2 ^ j % 2) hroom hquotient
  rw [hunread] at hq
  rw [← hq] at htop hrest
  have hdoubled : n / 2 ^ j = d.toNat * (2 * (n / 2 ^ (j + 1) / d.toNat)) + s.doubled := by
    have hprefix := Nat.div_add_mod (n / 2 ^ (j + 1)) d.toNat
    have hread := div_two_pow_eq n j
    rw [doubled, hr, htop]
    linarith
  constructor
  · rw [hr', hj', hdoubled, Nat.mul_add_mod]
  · rw [hq', hrest, hj', hdoubled, Nat.mul_add_div hd, Nat.pow_succ]
    ring

/-- The invariant holds at the start, when the high word has been read. -/
theorem divides_start {w : DoubleWord} {d : UInt64} (h : w.high < d) :
    Divides w.toNat d 0 ⟨w.high, w.low⟩ := by
  have hlow := w.low.toNat_lt
  have hhigh := UInt64.lt_iff_toNat_lt.1 h
  have hprefix : w.toNat / 2 ^ 64 = w.high.toNat := by
    simp only [DoubleWord.toNat, UInt64.size]
    omega
  have hunread : w.toNat % 2 ^ 64 = w.low.toNat := by
    simp only [DoubleWord.toNat, UInt64.size]
    omega
  constructor
  · rw [Nat.sub_zero, hprefix, Nat.mod_eq_of_lt hhigh]
  · rw [Nat.sub_zero, hprefix, hunread, Nat.div_eq_of_lt hhigh, pow_zero, mul_one, add_zero]

/-- The invariant holds after any number of bits up to 64. -/
theorem divides_after {w : DoubleWord} {d : UInt64} (h : w.high < d) {k : Nat} (hk : k ≤ 64) :
    (after d ⟨w.high, w.low⟩ k).Divides w.toNat d k := by
  induction k with
  | zero => exact divides_start h
  | succ k ih =>
    have positive : 0 < d.toNat := (Nat.zero_le _).trans_lt (UInt64.lt_iff_toNat_lt.1 h)
    exact (ih (by omega)).step positive (DoubleWord.toNat_lt_mul h) hk

/-- **Unread and known bits share a word**: the low `k` bits are the quotient of the prefix that has
been read, and the bits above them are what follows the prefix. -/
theorem Divides.quotient_split {n : Nat} {d : UInt64} {k : Nat} {s : DivisionState}
    (h : s.Divides n d k) (hn : n < d.toNat * UInt64.size) (hk : k ≤ 64) :
    s.quotient.toNat % 2 ^ k = n / 2 ^ (64 - k) / d.toNat ∧
      s.quotient.toNat / 2 ^ k = n % 2 ^ (64 - k) := by
  have hknown := prefix_div_lt hn hk
  rw [h.quotient]
  constructor
  · rw [Nat.mul_add_mod_self_right, Nat.mod_eq_of_lt hknown]
  · rw [Nat.mul_comm, Nat.mul_add_div (Nat.two_pow_pos k), Nat.div_eq_of_lt hknown, Nat.add_zero]

end DivisionState

/-! ### The result -/

/-- **Long division.** Quotient and remainder of a double word whose high word is below the
divisor. -/
theorem toNat_divideWide {w : DoubleWord} {d : UInt64} (h : w.high < d) :
    (divideWide w d).1.toNat = w.toNat / d.toNat ∧
      (divideWide w d).2.toNat = w.toNat % d.toNat := by
  obtain ⟨hr, hq⟩ := DivisionState.divides_after h (le_refl 64)
  simp only [Nat.sub_self, Nat.pow_zero, Nat.mod_one, Nat.div_one, Nat.zero_mul,
    Nat.zero_add] at hr hq
  exact ⟨hq, hr⟩

/-- **Long division, bit by bit.** For a high word below the divisor the result is quotient and
remainder of the double word.  After `k` of the 64 bits the remainder is below the divisor; it is
that of the prefix of `64 + k` bits, whose quotient stands in the low `k` bits of the other word,
below the bits that are still unread.  What the next bit makes of the remainder may take a bit more
than a word.  The divisor is taken off exactly if it goes into all of that, and the difference of
words is the true remainder, whether it wraps around or not. -/
theorem divideWide_exact {w : DoubleWord} {d : UInt64} (h : w.high < d) :
    (w.toNat = (divideWide w d).1.toNat * d.toNat + (divideWide w d).2.toNat ∧
      (divideWide w d).2 < d) ∧
    (∀ k ≤ 64,
      let s := DivisionState.after d ⟨w.high, w.low⟩ k
      s.remainder < d ∧
        s.quotient.toNat % 2 ^ k = w.toNat / 2 ^ (64 - k) / d.toNat ∧
        s.remainder.toNat = w.toNat / 2 ^ (64 - k) % d.toNat ∧
        s.quotient.toNat / 2 ^ k = w.toNat % 2 ^ (64 - k)) ∧
    ∀ k < 64,
      let s := DivisionState.after d ⟨w.high, w.low⟩ k
      s.carry.toNat * UInt64.size + s.shifted.toNat = s.doubled ∧
        (s.carry = 1 ∨ d ≤ s.shifted ↔ d.toNat ≤ s.doubled) ∧
        (d.toNat ≤ s.doubled → (s.step d).remainder = s.shifted - d ∧
          (s.shifted - d).toNat = s.doubled - d.toNat) := by
  have positive : 0 < d.toNat := (Nat.zero_le _).trans_lt (UInt64.lt_iff_toNat_lt.1 h)
  have below : ∀ k ≤ 64, (DivisionState.after d ⟨w.high, w.low⟩ k).remainder < d :=
    fun k hk => (DivisionState.divides_after h hk).remainder_lt positive
  refine ⟨⟨?_, below 64 le_rfl⟩, fun k hk => ?_, fun k hk => ?_⟩
  · obtain ⟨hq, hr⟩ := toNat_divideWide h
    rw [hq, hr, Nat.div_add_mod']
  · have invariant := DivisionState.divides_after h hk
    obtain ⟨known, unread⟩ := invariant.quotient_split (DoubleWord.toNat_lt_mul h) hk
    exact ⟨below k hk, known, invariant.remainder, unread⟩
  · have hr := below k hk.le
    have goesIn := DivisionState.goesIn_iff hr
    refine ⟨DivisionState.toNat_carry_shifted _, goesIn, fun hin => ⟨?_, ?_⟩⟩
    · exact congrArg DivisionState.remainder (if_pos (goesIn.2 hin))
    · exact DivisionState.toNat_shifted_sub hr hin

/-- A divisor with its top bit set.  The first bit takes the remainder out of its word, what stays
of it is below the divisor, and the difference wraps around to the true one. -/
theorem divideWide_exact_of_large_divisor :
    ∃ (w : DoubleWord) (d : UInt64), w.high < d ∧
      divideWide w d = (0xFFFFFFFFFFFFFFFF, 0x8000000000000000) ∧
      w.toNat = 0xFFFFFFFFFFFFFFFF * d.toNat + 0x8000000000000000 ∧
      let s := DivisionState.after d ⟨w.high, w.low⟩ 0
      UInt64.size ≤ s.doubled ∧ s.shifted < d ∧
        (s.step d).remainder.toNat = s.doubled - d.toNat := by
  let w : DoubleWord := ⟨0xFFFFFFFFFFFFFFFE, 0x8000000000000001⟩
  let d : UInt64 := 0xFFFFFFFFFFFFFFFF
  have small : w.high < d := by decide
  have result : divideWide w d = (0xFFFFFFFFFFFFFFFF, 0x8000000000000000) := by decide +kernel
  obtain ⟨⟨whole, -⟩, -, bits⟩ := divideWide_exact small
  obtain ⟨-, -, taken⟩ := bits 0 (by decide)
  obtain ⟨word, remainder⟩ := taken (by decide +kernel)
  rw [result] at whole
  exact ⟨w, d, small, result, whole, by decide +kernel, by decide +kernel,
    (congrArg UInt64.toNat word).trans remainder⟩

end DecimalMoney.Wide
