import DecimalMoney.Proofs.Decimal.Rounded
import DecimalMoney.Proofs.Numeral.Acceptance

/-!
# Texts at different scales

A text can be read at a given scale, or at the scale that it shows, and then be changed to the given
scale.  Reading looks at the digits beyond the scale, and the change divides the mantissa; both
find the same decimal, or they both fail, for digits in excess where rounding would be required and
for a decimal that is too large.  So a text stands for one value in all formats.

## Main results

* `DecimalMoney.Format.exists_denotedBy_of_parse` : what is read has the value of the numeral.
* `DecimalMoney.Decimal.withScale_of_inexact` : places that count cannot be given up.
* `DecimalMoney.Decimal.readMantissa_withScale_cases` : both ways have the same outcome.
* `DecimalMoney.Decimal.reading_rescales` : all outcomes, at every scale, and in all formats.
-/

namespace DecimalMoney

open Numeral

/-! ### The value of a text -/

/-- **What is read has the value of the numeral**, in every format. -/
theorem Format.exists_denotedBy_of_parse {format : Format} {text : String} {x : Decimal}
    (h : format.parse text = .ok x) :
    ∃ n : Numeral, n.DenotedBy text.toList ∧ x.value = n.value := by
  cases format with
  | free =>
    obtain ⟨n, hn, -, -, hvalue⟩ := Decimal.parseShown_eq_ok_iff.1 h
    exact ⟨n, hn, Decimal.value_eq_iff.2 hvalue⟩
  | fixed scale =>
    obtain ⟨hscale, hm⟩ := Decimal.parseAt_eq_ok_iff.1 h
    obtain ⟨n, hn, -, -, hvalue⟩ := readMantissa_eq_ok_iff.1 hm
    exact ⟨n, hn, Decimal.value_eq_iff.2 (hscale ▸ hvalue)⟩

/-- So it has one value in all formats. -/
theorem Format.value_eq_of_parse {format format' : Format} {text : String} {x y : Decimal}
    (h : format.parse text = .ok x) (h' : format'.parse text = .ok y) : x.value = y.value := by
  obtain ⟨n, hn, hx⟩ := exists_denotedBy_of_parse h
  obtain ⟨n', hn', hy⟩ := exists_denotedBy_of_parse h'
  rw [hx, hy, hn.unique hn']

namespace Decimal

variable {x : Decimal} {text : String} {scale : Scale}

/-! ### Changes of what has been read -/

@[simp] theorem mantissa_atScale (m : Int) (scale : Scale) : (atScale m scale).mantissa = m := rfl

/-- **Places that count cannot be given up** without rounding. -/
theorem withScale_of_inexact (hx : FitsDigits x.mantissa) (narrower : scale.1 ≤ x.scale)
    (inexact : Int.fract (x.value * 10 ^ scale.1) ≠ 0) :
    x.withScale scale.1 .unnecessary = .error .roundingRequired := by
  have quotient : x.value * 10 ^ scale.1 = x.mantissa / ((10 ^ (x.scale - scale.1) : Int) : ℚ) :=
    div_ten_pow_mul_of_le x.mantissa narrower
  have small := RoundingMode.floor_abs_lt_size
    (RoundingMode.unnecessary.fitsWord_round_div hx.fitsWord (ten_pow_pos (x.scale - scale.1)))
  rw [withScale, checkScale_val, ok_bind, rescale_of_le hx.fitsWord narrower x.scale_le,
    RoundingMode.roundWord_of_inexact (quotient ▸ inexact) small]
  rfl

/-- **Reading at a scale is reading at the scale shown and changing that**: both have the same
mantissa, both overflow, or both refuse what does not end by the scale. -/
theorem readMantissa_withScale_cases (h : parseShown text = .ok x) (scale : Scale) :
    (∃ m, readMantissa text.toList scale.1 = .ok m ∧
      x.withScale scale.1 .unnecessary = .ok (atScale m scale)) ∨
    (readMantissa text.toList scale.1 = .error .overflow ∧
      x.withScale scale.1 .unnecessary = .error .overflow) ∨
    (readMantissa text.toList scale.1 = .error (.malformedNumber .excessDigits) ∧
      x.withScale scale.1 .unnecessary = .error .roundingRequired) := by
  obtain ⟨n, hn, hlength, hx, hm⟩ := parseShown_eq_ok_iff.1 h
  have hvalue := value_eq_iff.2 hm
  by_cases hends : n.EndsBy scale.1
  · -- Both check the digits of the mantissa that the numeral has at the scale.
    have read := readMantissa_of_denotedBy hn hends
    have changed : x.withScale scale.1 .unnecessary =
        (checkDigits (n.mantissaAt scale.1)).map fun m => atScale m scale := by
      rw [withScale_eq hx, hvalue, ← cast_signed_magnitudeAt hends,
        RoundingMode.roundDigits_intCast, mantissaAt]
    by_cases digits : FitsDigits (n.mantissaAt scale.1)
    · rw [checkDigits_of_fitsDigits digits] at read changed
      exact .inl ⟨_, read, changed⟩
    · rw [checkDigits_eq_overflow_iff.2 digits] at read changed
      exact .inr (.inl ⟨read, changed⟩)
  · have narrower : scale.1 ≤ x.scale := by
      by_contra wider
      exact hends (endsBy_of_length_le (hlength.le.trans (not_le.1 wider).le))
    refine .inr (.inr ⟨readMantissa_of_not_endsBy hn hends, withScale_of_inexact hx narrower ?_⟩)
    rw [hvalue]
    exact fract_value_mul_ten_pow_ne_zero (denotedBy_iff.1 hn).2 hends

/-- **Texts denote one number at all scales.**  Where a text is read at the scale that it shows, it
is read at any other scale exactly if the decimal can be changed to that scale without rounding, and
as the mantissa that it has then.  Otherwise reading fails for the digits in excess where the
change would require rounding, and overflows where the change does; there are no other failures.
Whatever formats a text is read in, the values are the same. -/
theorem reading_rescales (h : parseShown text = .ok x) (scale : Scale) :
    (∀ m, readMantissa text.toList scale.1 = .ok m ↔
      ∃ y, x.withScale scale.1 .unnecessary = .ok y ∧ y.mantissa = m) ∧
    (∀ y, x.withScale scale.1 .unnecessary = .ok y → y.scale = scale.1 ∧ y.value = x.value) ∧
    ((∃ fault, readMantissa text.toList scale.1 = .error (.malformedNumber fault)) ↔
      x.withScale scale.1 .unnecessary = .error .roundingRequired) ∧
    (readMantissa text.toList scale.1 = .error .overflow ↔
      x.withScale scale.1 .unnecessary = .error .overflow) ∧
    (∀ failure, readMantissa text.toList scale.1 = .error failure →
      failure = .malformedNumber .excessDigits ∨ failure = .overflow) ∧
    (∀ (format format' : Format) (y z : Decimal),
      format.parse text = .ok y → format'.parse text = .ok z → y.value = z.value) := by
  have values : ∀ (format format' : Format) (y z : Decimal),
      format.parse text = .ok y → format'.parse text = .ok z → y.value = z.value :=
    fun _ _ _ _ => Format.value_eq_of_parse
  obtain ⟨m, read, changed⟩ | ⟨read, changed⟩ | ⟨read, changed⟩ :=
    readMantissa_withScale_cases h scale
  · have same : (atScale m scale).value = x.value :=
      values (.fixed scale) .free _ _ (parseAt_eq_ok_iff.2 ⟨rfl, read⟩) h
    rw [read, changed]
    refine ⟨by simp, ?_, by simp, by simp, by simp, values⟩
    rintro _ ⟨⟩
    exact ⟨rfl, same⟩
  · rw [read, changed]
    exact ⟨by simp, by simp, by simp, by simp, by simp, values⟩
  · rw [read, changed]
    exact ⟨by simp, by simp, by simp, by simp, by simp, values⟩

/-- A quarter below zero with a zero behind it: hundredths are enough, tenths are not.  A number of
eleven digits has no room for all places. -/
theorem reading_rescales_of_quarter :
    ∃ (x y quarter : Decimal) (scale tenths all : Scale),
      parseShown " -00.250\n" = .ok x ∧ x.scale = 3 ∧
      x.withScale scale.1 .unnecessary = .ok quarter ∧ quarter.scale = 2 ∧
      readMantissa " -00.250\n".toList scale.1 = .ok quarter.mantissa ∧
      quarter.value = x.value ∧
      (∃ fault, readMantissa " -00.250\n".toList tenths.1 = .error (.malformedNumber fault)) ∧
      x.withScale tenths.1 .unnecessary = .error .roundingRequired ∧
      parseShown "+12345678901." = .ok y ∧
      readMantissa "+12345678901.".toList all.1 = .error .overflow ∧
      y.withScale all.1 .unnecessary = .error .overflow := by
  let x : Decimal := ⟨-250, 3, by decide⟩
  let y : Decimal := ⟨12345678901, 0, by decide⟩
  let scale : Scale := ⟨2, by decide⟩
  let tenths : Scale := ⟨1, by decide⟩
  let all : Scale := ⟨18, by decide⟩
  have hx : parseShown " -00.250\n" = .ok x := by decide +kernel
  have hy : parseShown "+12345678901." = .ok y := by decide +kernel
  have changed : x.withScale scale.1 .unnecessary = .ok (atScale (-25) scale) := by decide +kernel
  have refused : x.withScale tenths.1 .unnecessary = .error .roundingRequired := by decide +kernel
  have large : y.withScale all.1 .unnecessary = .error .overflow := by decide +kernel
  obtain ⟨read, same, -⟩ := reading_rescales hx scale
  obtain ⟨-, -, malformed, -⟩ := reading_rescales hx tenths
  obtain ⟨-, -, -, overflow, -⟩ := reading_rescales hy all
  exact ⟨x, y, _, scale, tenths, all, hx, rfl, changed, rfl, (read (-25)).2 ⟨_, changed, rfl⟩,
    (same _ changed).2, malformed.2 refused, refused, hy, overflow.2 large, large⟩

end Decimal

end DecimalMoney
