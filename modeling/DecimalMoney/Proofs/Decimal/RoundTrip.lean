import DecimalMoney.Json.Money
import DecimalMoney.Proofs.Numeral.Acceptance

/-!
# Decimals are read back from their texts

What is written for a decimal is a spelling of its value.  A text without its zero places still
denotes the value at a scale that is known, and a text with all its places shows the scale too.
Structured data holds the same texts; an integer in their place is read like its own text.

## Main definitions

* `DecimalMoney.writtenNumeral` : the numeral that is written for a mantissa at a scale.

## Main results

* `DecimalMoney.spelledBy_writeScaled`, `DecimalMoney.value_writtenNumeral` : the text of a
  mantissa at a scale spells a numeral of its value.
* `DecimalMoney.Format.parse_writeInteger` : the text of an integer is read as that integer.
* `DecimalMoney.Format.read_back` : text and structured data of a decimal are read back.
-/

namespace DecimalMoney

open Numeral

/-! ### The numeral that is written -/

section Written

variable (mantissa : Int) (scale : Nat) (places : Places)

/-- The numeral that is written for a mantissa at a scale. -/
def writtenNumeral : Numeral where
  negative := decide (mantissa < 0)
  integral := digits (mantissa.natAbs / 10 ^ scale)
  fraction :=
    if scale = 0 ∨ (mantissa.natAbs % 10 ^ scale = 0 ∧ places = .needed) then []
    else padded scale (mantissa.natAbs % 10 ^ scale)

/-- The text of a mantissa at a scale spells its numeral. -/
theorem spelledBy_writeScaled :
    (writtenNumeral mantissa scale places).SpelledBy (writeScaled mantissa scale places) := by
  have hn : (writtenNumeral mantissa scale places).WellFormed := by
    refine ⟨isDigit_of_mem_digits _, ?_, .inl (digits_ne_nil _)⟩
    unfold writtenNumeral
    split_ifs
    · exact List.forall_mem_nil _
    · exact isDigit_of_mem_padded
  have hsign : SignText (decide (mantissa < 0)) (if mantissa < 0 then ['-'] else []) := by
    split_ifs with negative
    · rw [decide_eq_true negative]
      exact .minus
    · rw [decide_eq_false negative]
      exact .none
  have hfraction : FractionText (writtenNumeral mantissa scale places).fraction
      (writeFraction (mantissa.natAbs % 10 ^ scale) scale places) := by
    unfold writtenNumeral writeFraction
    split_ifs
    · exact .none
    · exact .point _
  exact ⟨hn, _, _, hsign, hfraction, rfl⟩

theorem denotedBy_writeScaled : (writtenNumeral mantissa scale places).DenotedBy
    (String.ofList (writeScaled mantissa scale places)).toList := by
  rw [String.toList_ofList]
  exact ⟨[], _, [], by simp, List.forall_mem_nil _, List.forall_mem_nil _,
    spelledBy_writeScaled mantissa scale places⟩

/-- Either no places are written, since there are none or all are zero, or all of them are. -/
theorem fraction_writtenNumeral :
    ((writtenNumeral mantissa scale places).fraction = [] ∧ mantissa.natAbs % 10 ^ scale = 0 ∧
      (places = .all → scale = 0)) ∨
    ((writtenNumeral mantissa scale places).fraction.length = scale ∧
      valueOf (writtenNumeral mantissa scale places).fraction = mantissa.natAbs % 10 ^ scale) := by
  unfold writtenNumeral
  split_ifs with none
  · refine .inl ⟨rfl, ?_, ?_⟩
    · rcases none with rfl | ⟨hzero, -⟩
      · exact Nat.mod_one _
      · exact hzero
    · rintro rfl
      exact none.resolve_right fun h => nomatch h.2
  · have positive : 0 < scale := Nat.pos_of_ne_zero fun h => none (.inl h)
    exact .inr ⟨length_padded positive (Nat.mod_lt _ (Nat.pow_pos (by decide))),
      valueOf_padded _ _⟩

/-- No more places are written than the scale has. -/
theorem endsBy_writtenNumeral : (writtenNumeral mantissa scale places).EndsBy scale := by
  refine endsBy_of_length_le ?_
  obtain ⟨hnil, -, -⟩ | ⟨hlength, -⟩ := fraction_writtenNumeral mantissa scale places
  · rw [hnil]
    exact Nat.zero_le _
  · exact hlength.le

/-- All places are written on request. -/
theorem length_fraction_writtenNumeral_all :
    (writtenNumeral mantissa scale .all).fraction.length = scale := by
  obtain ⟨hnil, -, hscale⟩ | ⟨hlength, -⟩ := fraction_writtenNumeral mantissa scale .all
  · rw [hnil, hscale rfl]
    rfl
  · exact hlength

/-- The digits behind the point stand for the remainder, also where they are left out. -/
theorem valueOf_fraction_writtenNumeral :
    (valueOf (writtenNumeral mantissa scale places).fraction : ℚ) /
        10 ^ (writtenNumeral mantissa scale places).fraction.length =
      (mantissa.natAbs % 10 ^ scale : Nat) / 10 ^ scale := by
  obtain ⟨hnil, hzero, -⟩ | ⟨hlength, hvalue⟩ := fraction_writtenNumeral mantissa scale places
  · simp [hnil, hzero]
  · rw [hlength, hvalue]

/-- **The numeral that is written has the value of the mantissa at its scale.** -/
theorem value_writtenNumeral :
    (writtenNumeral mantissa scale places).value = mantissa / 10 ^ scale := by
  have hten : (10 : ℚ) ^ scale ≠ 0 := pow_ne_zero _ (by norm_num)
  have hparts : ((mantissa.natAbs / 10 ^ scale : Nat) : ℚ) * 10 ^ scale +
      (mantissa.natAbs % 10 ^ scale : Nat) = mantissa.natAbs := by
    exact_mod_cast Nat.div_add_mod' mantissa.natAbs (10 ^ scale)
  rw [value, valueOf_fraction_writtenNumeral, cast_eq_signFactor_mul mantissa, ← hparts]
  simp only [writtenNumeral, valueOf_digits]
  field_simp

theorem value_writtenNumeral_mul : (writtenNumeral mantissa scale places).value * 10 ^ scale =
    mantissa := by
  rw [value_writtenNumeral, div_mul_cancel₀ _ (pow_ne_zero _ (by norm_num))]

end Written

/-! ### Reading back -/

namespace Format

variable (format : Format)

/-- **The text of a decimal is read back** in its format. -/
theorem parse_render {x : Decimal} (hscale : format.Admits x) (hdigits : FitsDigits x.mantissa) :
    format.parse (format.render x) = .ok x := by
  cases format with
  | fixed scale =>
    refine Decimal.parseAt_eq_ok_iff.2 ⟨hscale, readMantissa_eq_ok_iff.2 ?_⟩
    have hscale : x.scale = scale.1 := hscale
    rw [← hscale]
    exact ⟨_, denotedBy_writeScaled _ _ _, endsBy_writtenNumeral _ _ _, hdigits,
      (value_writtenNumeral_mul _ _ _).symm⟩
  | free =>
    exact Decimal.parseShown_eq_ok_iff.2 ⟨_, denotedBy_writeScaled _ _ _,
      length_fraction_writtenNumeral_all _ _, hdigits, (value_writtenNumeral_mul _ _ _).symm⟩

/-- A numeral is read at a scale as the integer that it is written for. -/
theorem parseAt_writeInteger (n : Int) (scale : Scale) :
    Decimal.parseAt (String.ofList (writeInteger n)) scale.1 = Decimal.ofInteger n scale := by
  have hends : (writtenNumeral n 0 .all).EndsBy scale.1 :=
    endsBy_of_length_le ((length_fraction_writtenNumeral_all n 0).trans_le (Nat.zero_le _))
  have hvalue : n * 10 ^ scale.1 = (writtenNumeral n 0 .all).mantissaAt scale.1 := by
    refine (eq_mantissaAt_iff hends).2 ?_
    rw [value_writtenNumeral]
    push_cast
    rw [pow_zero, div_one]
  rw [Decimal.parseAt_eq, ← writeScaled_scale_zero n .all,
    readMantissa_of_denotedBy (denotedBy_writeScaled n 0 .all) hends, ← hvalue]
  rfl

/-- **The text of an integer is read as that integer**, of any size. -/
theorem parse_writeInteger (n : Int) :
    format.parse (String.ofList (writeInteger n)) = format.ofInteger n := by
  cases format with
  | fixed scale => exact parseAt_writeInteger n scale
  | free =>
    have hshown : shownScale (String.ofList (writeInteger n)).toList = integerScale.1 := by
      rw [← writeScaled_scale_zero n .all, shownScale_of_denotedBy (denotedBy_writeScaled n 0 .all)]
      exact length_fraction_writtenNumeral_all n 0
    have hread := Decimal.parseShown_eq_parseAt integerScale hshown
    exact hread.trans (parseAt_writeInteger n integerScale)

/-- An integer that does not fit a word has too many digits at any scale. -/
theorem ofInteger_of_not_fitsWord {n : Int} (h : ¬FitsWord n) :
    format.ofInteger n = .error .overflow := by
  have large : ∀ scale : Scale, Decimal.ofInteger n scale = .error .overflow := by
    intro scale
    have hle : n.natAbs ≤ (n * 10 ^ scale.1).natAbs := by
      rw [Int.natAbs_mul]
      exact Nat.le_mul_of_pos_right _ (Int.natAbs_pos.2 (ten_pow_pos scale.1).ne')
    have hdigits : ¬FitsDigits (n * 10 ^ scale.1) :=
      fun small => h (small.of_natAbs_le hle).fitsWord
    rw [Decimal.ofInteger, checkDigits_eq_overflow_iff.2 hdigits]
    rfl
  cases format with
  | fixed scale => exact large scale
  | free => exact large integerScale

/-- **Decimals are read back**, from text and from structured data, if they have at most eighteen
digits and a scale that the format allows.  An integer in structured data, of any size, is read
like its own text, with the same outcome. -/
theorem read_back :
    (∀ x : Decimal, format.Admits x → FitsDigits x.mantissa →
      format.parse (format.render x) = .ok x ∧ format.ofJson (format.toJson x) = .ok x) ∧
    ∀ n : Int, format.ofJson (.integer n) =
      format.ofJson (.string (String.ofList (writeInteger n))) := by
  refine ⟨fun x hscale hdigits => ?_, fun n => ?_⟩
  · have hparse := format.parse_render hscale hdigits
    exact ⟨hparse, Decoded.ofResult_eq_ok_iff.2 hparse⟩
  · refine congrArg Decoded.ofResult ?_
    rw [format.parse_writeInteger]
    exact checkWord_bind fun large => format.ofInteger_of_not_fitsWord large

/-- Five hundredths below zero, of which only the mantissa shows the sign. -/
theorem read_back_of_negative_fraction :
    Format.free.Admits ⟨-5, 2, by decide⟩ ∧ FitsDigits (-5) ∧
      Format.free.render ⟨-5, 2, by decide⟩ = "-0.05" ∧
      Format.free.parse "-0.05" = .ok ⟨-5, 2, by decide⟩ ∧
      Format.free.ofJson (.string "-0.05") = .ok ⟨-5, 2, by decide⟩ := by
  have render : Format.free.render ⟨-5, 2, by decide⟩ = "-0.05" := by decide +kernel
  obtain ⟨parse, decode⟩ := (read_back .free).1 ⟨-5, 2, by decide⟩ (by decide) (by decide)
  rw [toJson, render] at decode
  rw [render] at parse
  exact ⟨by decide, by decide, render, parse, decode⟩

end Format

end DecimalMoney
