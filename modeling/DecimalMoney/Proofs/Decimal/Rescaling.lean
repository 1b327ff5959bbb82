import DecimalMoney.Proofs.Decimal.Value
import DecimalMoney.Proofs.Rounding.Digits
import DecimalMoney.Proofs.Rounding.Nested

/-!
# Changes of scale

A mantissa at another scale is the value, in units of the new last place, rounded to eighteen
digits: a larger scale is the case where the number to be rounded is an integer.  So a change of
scale sees the value only, and places that were added without rounding do not show in what follows.
Places may be taken away in two steps, if the mode has a direction.

## Main results

* `DecimalMoney.rescale_of_le` : a smaller scale, for all words.
* `DecimalMoney.rescale_eq_roundDigits` : any scale, for mantissas of eighteen digits.
* `DecimalMoney.rescale_of_widened` : widening first makes no difference.
* `DecimalMoney.rescale_bind_rescale` : narrowing in two steps is narrowing in one.
* `DecimalMoney.rescale_coherent` : both together.
-/

namespace DecimalMoney

variable {m w : Int} {s t u : Nat} {mode : RoundingMode}

/-! ### Quotients of integers -/

/-- A rounded quotient of an integer lies between the integer and zero. -/
theorem RoundingMode.round_div_mem (mode : RoundingMode) (m : Int) {d : Int} (hd : 0 < d) :
    min m 0 ≤ mode.round (m / d) ∧ mode.round (m / d) ≤ max m 0 := by
  have hd' : (1 : ℚ) ≤ d := by exact_mod_cast hd
  have hpos : (0 : ℚ) < d := zero_lt_one.trans_le hd'
  rcases le_total 0 m with nonneg | nonpos
  · have hm : (0 : ℚ) ≤ m := by exact_mod_cast nonneg
    rw [min_eq_right nonneg, max_eq_left nonneg]
    exact ⟨mode.round_nonneg (div_nonneg hm hpos.le), mode.round_le (div_le_self hm hd')⟩
  · have hm : (m : ℚ) ≤ 0 := by exact_mod_cast nonpos
    rw [min_eq_left nonpos, max_eq_right nonpos]
    refine ⟨mode.le_round ?_, mode.round_nonpos (div_nonpos_of_nonpos_of_nonneg hm hpos.le)⟩
    rw [le_div_iff₀ hpos]
    exact mul_le_of_one_le_right hm hd'

theorem RoundingMode.fitsWord_round_div (mode : RoundingMode) (hm : FitsWord m) {d : Int}
    (hd : 0 < d) : FitsWord (mode.round (m / d)) := by
  have := mode.round_div_mem m hd
  unfold FitsWord at *
  omega

theorem RoundingMode.fitsDigits_round_div (mode : RoundingMode) (hm : FitsDigits m) {d : Int}
    (hd : 0 < d) : FitsDigits (mode.round (m / d)) := by
  have := mode.round_div_mem m hd
  exact hm.of_natAbs_le (by omega)

/-! ### One change of scale -/

/-- The value of a mantissa in units of a smaller scale. -/
theorem div_ten_pow_mul_of_le (m : Int) (h : t ≤ s) :
    (m : ℚ) / 10 ^ s * 10 ^ t = m / ((10 ^ (s - t) : Int) : ℚ) := by
  have split : (10 : ℚ) ^ s = 10 ^ (s - t) * 10 ^ t := by rw [← pow_add, Nat.sub_add_cancel h]
  rw [split, Int.cast_pow, Int.cast_ofNat, ← div_div, div_mul_cancel₀ _ (cast_ten_pow_ne_zero t)]

/-- In units of a larger scale it is an integer. -/
theorem div_ten_pow_mul_of_ge (m : Int) (h : s ≤ t) :
    (m : ℚ) / 10 ^ s * 10 ^ t = ((m * 10 ^ (t - s) : Int) : ℚ) := by
  have split : (10 : ℚ) ^ t = 10 ^ s * 10 ^ (t - s) := by rw [← pow_add, Nat.add_sub_cancel' h]
  rw [split, ← mul_assoc, div_mul_cancel₀ _ (cast_ten_pow_ne_zero s)]
  push_cast
  rfl

/-- So it is an integer in units of a smaller scale if the mantissa is that integer with zeros. -/
theorem div_ten_pow_mul_eq_intCast_iff {n : Int} (h : t ≤ s) :
    (m : ℚ) / 10 ^ s * 10 ^ t = n ↔ m = n * 10 ^ (s - t) := by
  have nonzero : ((10 ^ (s - t) : Int) : ℚ) ≠ 0 := by exact_mod_cast (ten_pow_pos (s - t)).ne'
  rw [div_ten_pow_mul_of_le m h, div_eq_iff nonzero]
  exact_mod_cast Iff.rfl

/-- **A smaller scale** is reached by rounding. -/
theorem rescale_of_le (hm : FitsWord m) (narrower : t ≤ s) (hs : s ≤ maxScale)
    (mode : RoundingMode) :
    rescale m s t mode = mode.roundWord (m / ((10 ^ (s - t) : Int) : ℚ)) := by
  by_cases unchanged : m = 0 ∨ s = t
  · have exact : (m : ℚ) / ((10 ^ (s - t) : Int) : ℚ) = m := by
      rcases unchanged with rfl | rfl <;> simp
    rw [rescale, if_pos unchanged, exact, RoundingMode.roundWord_intCast,
      checkWord_of_fitsWord hm]
  · rw [rescale, if_neg unchanged, if_neg (not_lt.2 narrower), powerOfTen_natCast (by omega),
      ok_bind, divideRounded_eq_roundWord hm (ten_pow_pos _).ne']

/-- **A change of scale rounds the value**, in units of the new last place. -/
theorem rescale_eq_roundDigits (hm : FitsDigits m) (hs : s ≤ maxScale) (ht : t ≤ maxScale)
    (mode : RoundingMode) :
    rescale m s t mode = mode.roundDigits ((m : ℚ) / 10 ^ s * 10 ^ t) := by
  rcases le_or_gt t s with narrower | wider
  · rw [rescale_of_le hm.fitsWord narrower hs, div_ten_pow_mul_of_le m narrower,
      RoundingMode.roundWord_eq_roundDigits (mode.fitsDigits_round_div hm (ten_pow_pos _))]
  · rw [div_ten_pow_mul_of_ge m wider.le, RoundingMode.roundDigits_intCast]
    by_cases zero : m = 0
    · rw [zero, rescale_zero, zero_mul, checkDigits_of_fitsDigits fitsDigits_zero]
    · exact rescale_of_lt zero wider (by omega) mode

/-! ### Two changes of scale -/

/-- **Places that were added without rounding do not show** in a further change of scale. -/
theorem rescale_of_widened (hm : FitsDigits m) (hs : s ≤ maxScale) (ht : t ≤ maxScale)
    (hu : u ≤ maxScale) (h : rescale m s t .unnecessary = .ok w) (mode : RoundingMode) :
    rescale w t u mode = rescale m s u mode := by
  have hvalue := (rescale_exact hm.fitsWord h).1
  rw [rescale_eq_roundDigits hm hs ht] at h
  rw [rescale_eq_roundDigits (RoundingMode.fitsDigits_of_roundDigits h) ht hu, hvalue,
    rescale_eq_roundDigits hm hs hu]

/-- **Places may be taken away in two steps**, if the mode has a direction. -/
theorem rescale_bind_rescale (hm : FitsWord m) (directed : mode.isDirected = true) (hut : u ≤ t)
    (hts : t ≤ s) (hs : s ≤ maxScale) :
    (do rescale (← rescale m s t mode) t u mode) = rescale m s u mode := by
  have fits := mode.fitsWord_round_div hm (ten_pow_pos (s - t))
  have second : ∀ k, rescale m s t mode = .ok k →
      rescale k t u mode = mode.roundWord (k / ((10 ^ (t - u) : Int) : ℚ)) := by
    intro k hk
    rw [rescale_of_le hm hts hs] at hk
    exact rescale_of_le (RoundingMode.eq_round_of_roundWord hk).2 hut (hts.trans hs) mode
  have split : (m : ℚ) / ((10 ^ (s - t) : Int) : ℚ) / ((10 ^ (t - u) : Int) : ℚ) =
      m / ((10 ^ (s - u) : Int) : ℚ) := by
    rw [div_div, ← Int.cast_mul, ← pow_add, Nat.sub_add_sub_cancel hts hut]
  calc (do rescale (← rescale m s t mode) t u mode)
      = (do mode.roundWord ((← rescale m s t mode : Int) / ((10 ^ (t - u) : Int) : ℚ))) :=
        bind_congr_of_ok second
    _ = rescale m s u mode := by
        rw [rescale_of_le hm hts hs, RoundingMode.roundWord_bind_roundWord_div directed fits
          (ten_pow_pos _), split, rescale_of_le hm (hut.trans hts) hs]

/-- To nearest they may not: `0.45` is nearer to zero, but `0.5` is a tie. -/
example : rescale 45 2 1 .halfUp = .ok 5 ∧ rescale 5 1 0 .halfUp = .ok 1 ∧
    rescale 45 2 0 .halfUp = .ok 0 := by
  decide +kernel

/-- **Changes of scale are coherent.** A mantissa of eighteen digits that is widened without
rounding, and then taken to any scale in any mode, comes out as the mantissa itself taken there,
with the same failures; back at its own scale it is what it was.  A word that is narrowed in two
steps, in a mode that has a direction or forbids rounding, comes out as if narrowed in one, again
with the same failures. -/
theorem rescale_coherent (hs : s ≤ maxScale) (ht : t ≤ maxScale) (hu : u ≤ maxScale)
    (mode : RoundingMode) :
    (FitsDigits m → s ≤ t → rescale m s t .unnecessary = .ok w →
      rescale w t u mode = rescale m s u mode ∧ rescale w t s mode = .ok m) ∧
    (FitsWord m → mode.isDirected = true → u ≤ t → t ≤ s →
      (do rescale (← rescale m s t mode) t u mode) = rescale m s u mode) := by
  refine ⟨fun hm _ h => ⟨rescale_of_widened hm hs ht hu h mode, ?_⟩, fun hm directed hut hts =>
    rescale_bind_rescale hm directed hut hts hs⟩
  rw [rescale_of_widened hm hs ht hs h mode, rescale_self]

/-- A tie that widening does not hide, and the least word, narrowed in two steps toward negative
infinity. -/
theorem rescale_coherent_of_tie_and_least_word :
    FitsDigits 25 ∧ rescale 25 1 3 .unnecessary = .ok 2500 ∧ rescale 2500 3 0 .halfEven = .ok 2 ∧
      rescale 25 1 0 .halfEven = .ok 2 ∧ rescale 2500 3 1 .halfEven = .ok 25 ∧
      FitsWord (-0x8000000000000000) ∧
      (do rescale (← rescale (-0x8000000000000000) 18 9 .floor) 9 0 .floor) = .ok (-10) ∧
      rescale (-0x8000000000000000) 18 0 .floor = .ok (-10) := by
  have digits : FitsDigits 25 := by decide
  have word : FitsWord (-0x8000000000000000) := by decide
  have widened : rescale 25 1 3 .unnecessary = .ok 2500 := by decide +kernel
  have tie : rescale 25 1 0 .halfEven = .ok 2 := by decide +kernel
  have least : rescale (-0x8000000000000000) 18 0 .floor = .ok (-10) := by decide +kernel
  obtain ⟨hidden, -⟩ := rescale_coherent (m := 25) (w := 2500) (s := 1) (t := 3) (u := 0)
    (by decide) (by decide) (by decide) .halfEven
  obtain ⟨-, steps⟩ := rescale_coherent (m := -0x8000000000000000) (w := 0) (s := 18) (t := 9)
    (u := 0) (by decide) (by decide) (by decide) .floor
  obtain ⟨same, back⟩ := hidden digits (by decide) widened
  exact ⟨digits, widened, same.trans tie, tie, back, word,
    (steps word (by decide) (by decide) (by decide)).trans least, least⟩

end DecimalMoney
