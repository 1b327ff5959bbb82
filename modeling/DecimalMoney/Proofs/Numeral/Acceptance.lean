import DecimalMoney.Decimal.Format
import DecimalMoney.Proofs.Numeral.Words

/-!
# What the readers of numerals accept

A reader accepts the texts that denote a numeral, if the numeral ends by the scale and its value
has a mantissa of at most eighteen digits there.  It reports everything else by its cause: a text
that denotes no such numeral is malformed, and one whose value is too large overflows.

## Main definitions

* `DecimalMoney.Numeral.mantissaAt` : the mantissa of a numeral at a scale.

## Main results

* `DecimalMoney.readMantissa_eq_ok_iff`, `DecimalMoney.readMantissa_malformed_iff`,
  `DecimalMoney.readMantissa_overflow_iff` : the three outcomes at a given scale.
* `DecimalMoney.Decimal.parseShown_eq_ok_iff` : acceptance at the scale that a text shows.
* `DecimalMoney.numerals_read_exactly` : the readers accept the spellings of numerals and nothing
  else, and nothing is computed or cut on the way that could go wrong.
-/

namespace DecimalMoney

/-! ### The numeral of a text -/

namespace Numeral

/-- The mantissa of a numeral at a scale: its magnitude there, with its sign. -/
def mantissaAt (n : Numeral) (scale : Nat) : Int := signed n.negative (n.magnitudeAt scale)

/-- A text denotes one numeral. -/
theorem DenotedBy.unique {n n' : Numeral} {text : List Char} (h : n.DenotedBy text)
    (h' : n'.DenotedBy text) : n = n' :=
  (denotedBy_iff.1 h).1.symm.trans (denotedBy_iff.1 h').1

/-- Nothing but blanks denotes no numeral. -/
theorem not_denotedBy_of_trim_eq_nil {n : Numeral} {text : List Char} (h : Text.trim text = []) :
    ¬n.DenotedBy text := by
  rw [denotedBy_iff, h]
  rintro ⟨rfl, hn⟩
  exact hn.digits_ne_nil.elim (· rfl) (· rfl)

/-- The mantissa is too large where the value is. -/
theorem not_fitsDigits_mantissaAt_iff {n : Numeral} {scale : Nat} (h : n.EndsBy scale) :
    ¬FitsDigits (n.mantissaAt scale) ↔ (maxMantissa : ℚ) < |n.value * 10 ^ scale| := by
  have fits : FitsDigits (n.mantissaAt scale) ↔ |n.mantissaAt scale| ≤ maxMantissa := abs_le.symm
  rw [fits, not_le, ← cast_signed_magnitudeAt h, ← Int.cast_abs, Int.cast_lt, mantissaAt]

/-- An integer is the mantissa of a numeral if it is its value in units of the scale. -/
theorem eq_mantissaAt_iff {n : Numeral} {scale : Nat} {m : Int} (h : n.EndsBy scale) :
    m = n.mantissaAt scale ↔ (m : ℚ) = n.value * 10 ^ scale := by
  rw [← cast_signed_magnitudeAt h, Int.cast_inj, mantissaAt]

end Numeral

open Numeral

/-! ### Reading at a given scale -/

/-- There are two kinds of texts: those that denote a numeral that ends by the scale, of which only
the size remains to be checked, and malformed ones. -/
theorem readMantissa_cases (text : List Char) (scale : Scale) :
    (∃ n : Numeral, n.DenotedBy text ∧ n.EndsBy scale.1 ∧
      readMantissa text scale.1 = checkDigits (n.mantissaAt scale.1)) ∨
    ((¬∃ n : Numeral, n.DenotedBy text ∧ n.EndsBy scale.1) ∧
      ∃ fault, readMantissa text scale.1 = .error (.malformedNumber fault)) := by
  by_cases blank : Text.trim text = []
  · refine .inr ⟨fun ⟨_, hn, _⟩ => not_denotedBy_of_trim_eq_nil blank hn, .emptyInput, ?_⟩
    rw [readMantissa, checkScale_val]
    exact if_pos blank
  · cases hfault : (ofText (Text.trim text)).fault? scale.1 with
    | none =>
      obtain ⟨hn, hends⟩ := fault?_eq_none_iff.1 hfault
      refine .inl ⟨_, denotedBy_iff.2 ⟨rfl, hn⟩, hends, ?_⟩
      rw [readMantissa, checkScale_val]
      refine (if_neg blank).trans ?_
      rw [hfault]
      rfl
    | some fault =>
      refine .inr ⟨?_, fault, ?_⟩
      · rintro ⟨n, hn, hends⟩
        obtain ⟨rfl, hn⟩ := denotedBy_iff.1 hn
        rw [fault?_eq_none_iff.2 ⟨hn, hends⟩] at hfault
        cases hfault
      · rw [readMantissa, checkScale_val]
        refine (if_neg blank).trans ?_
        rw [hfault]

/-- A numeral that ends by the scale has its mantissa read, if that is not too large. -/
theorem readMantissa_of_denotedBy {n : Numeral} {text : List Char} {scale : Scale}
    (hn : n.DenotedBy text) (hends : n.EndsBy scale.1) :
    readMantissa text scale.1 = checkDigits (n.mantissaAt scale.1) := by
  obtain ⟨n', hn', _, hread⟩ | ⟨none, _⟩ := readMantissa_cases text scale
  · rw [hread, hn'.unique hn]
  · exact absurd ⟨n, hn, hends⟩ none

/-- A numeral that does not has digits in excess. -/
theorem readMantissa_of_not_endsBy {n : Numeral} {text : List Char} {scale : Scale}
    (hn : n.DenotedBy text) (excess : ¬n.EndsBy scale.1) :
    readMantissa text scale.1 = .error (.malformedNumber .excessDigits) := by
  have some : Text.trim text ≠ [] := fun blank => not_denotedBy_of_trim_eq_nil blank hn
  obtain ⟨rfl, hn⟩ := denotedBy_iff.1 hn
  rw [readMantissa, checkScale_val]
  refine (if_neg some).trans ?_
  rw [hn.fault?_of_not_endsBy excess]

/-- **A mantissa is read** from the texts of numerals that end by the scale; it has at most eighteen
digits and is the value in units of the scale. -/
theorem readMantissa_eq_ok_iff {text : List Char} {scale : Scale} {m : Int} :
    readMantissa text scale.1 = .ok m ↔ ∃ n : Numeral, n.DenotedBy text ∧ n.EndsBy scale.1 ∧
      FitsDigits m ∧ (m : ℚ) = n.value * 10 ^ scale.1 := by
  constructor
  · intro h
    obtain ⟨n, hn, hends, hread⟩ | ⟨_, fault, hread⟩ := readMantissa_cases text scale
    · obtain ⟨hdigits, hm⟩ := checkDigits_eq_ok_iff.1 (hread.symm.trans h)
      exact ⟨n, hn, hends, hm ▸ hdigits, (eq_mantissaAt_iff hends).1 hm⟩
    · cases hread.symm.trans h
  · rintro ⟨n, hn, hends, hdigits, hm⟩
    rw [readMantissa_of_denotedBy hn hends, ← (eq_mantissaAt_iff hends).2 hm]
    exact checkDigits_of_fitsDigits hdigits

/-- **A text is malformed** if it denotes no numeral that ends by the scale. -/
theorem readMantissa_malformed_iff {text : List Char} {scale : Scale} :
    (∃ fault, readMantissa text scale.1 = .error (.malformedNumber fault)) ↔
      ¬∃ n : Numeral, n.DenotedBy text ∧ n.EndsBy scale.1 := by
  obtain ⟨n, hn, hends, hread⟩ | ⟨none, malformed⟩ := readMantissa_cases text scale
  · refine iff_of_false ?_ (not_not_intro ⟨n, hn, hends⟩)
    rintro ⟨fault, hfault⟩
    rw [hread, checkDigits] at hfault
    split_ifs at hfault
    cases hfault
  · exact iff_of_true malformed none

/-- **A numeral overflows** if its value has more than eighteen digits in units of the scale. -/
theorem readMantissa_overflow_iff {text : List Char} {scale : Scale} :
    readMantissa text scale.1 = .error .overflow ↔
      ∃ n : Numeral, n.DenotedBy text ∧ n.EndsBy scale.1 ∧
        (maxMantissa : ℚ) < |n.value * 10 ^ scale.1| := by
  constructor
  · intro h
    obtain ⟨n, hn, hends, hread⟩ | ⟨_, fault, hread⟩ := readMantissa_cases text scale
    · have large := checkDigits_eq_overflow_iff.1 (hread.symm.trans h)
      exact ⟨n, hn, hends, (not_fitsDigits_mantissaAt_iff hends).1 large⟩
    · cases hread.symm.trans h
  · rintro ⟨n, hn, hends, hlarge⟩
    rw [readMantissa_of_denotedBy hn hends]
    exact checkDigits_eq_overflow_iff.2 ((not_fitsDigits_mantissaAt_iff hends).2 hlarge)

/-! ### Reading at the scale that a text shows -/

/-- A sign in front does not move the point. -/
theorem afterPoint_sign_append {negative : Bool} {sign : List Char} (h : SignText negative sign)
    (body : List Char) : afterPoint (sign ++ body) = afterPoint body := by
  cases h <;> simp [afterPoint]

/-- The scale that the text of a numeral shows is the number of its digits behind the point. -/
theorem shownScale_of_denotedBy {n : Numeral} {text : List Char} (h : n.DenotedBy text) :
    shownScale text = n.fraction.length := by
  obtain ⟨hcut, hn⟩ := denotedBy_iff.1 h
  obtain ⟨sign, hsign, htext⟩ := exists_signText (Text.trim text)
  have hfraction : afterPoint (Text.trim text) = n.fraction := by
    rw [← hcut, htext, afterPoint_sign_append hsign, ← htext]
    rfl
  rw [shownScale, hfraction, byteLength_of_isDigit hn.fraction]

namespace Decimal

theorem parseAt_eq (text : String) (scale : Scale) : parseAt text scale.1 =
    (readMantissa text.toList scale.1 >>= fun m => .ok (atScale m scale)) := by
  rw [parseAt, checkScale_val]
  rfl

theorem parseAt_eq_ok_iff {text : String} {scale : Scale} {x : Decimal} :
    parseAt text scale.1 = .ok x ↔
      x.scale = scale.1 ∧ readMantissa text.toList scale.1 = .ok x.mantissa := by
  rw [parseAt_eq, bind_eq_ok_iff]
  constructor
  · rintro ⟨m, hm, hx⟩
    cases hx
    exact ⟨rfl, hm⟩
  · rintro ⟨hscale, hm⟩
    obtain ⟨m, places, _⟩ := x
    cases hscale
    exact ⟨m, hm, rfl⟩

/-- The scale that a text shows is the one that it is read at. -/
theorem parseShown_eq_parseAt {text : String} (scale : Scale)
    (h : shownScale text.toList = scale.1) : parseShown text = parseAt text scale.1 := by
  rw [parseAt_eq, parseShown, readShown]
  simp only [h, dif_pos scale.2]
  cases readMantissa text.toList scale.1 <;> rfl

/-- **A decimal is read at the scale that a text shows** from the texts of all numerals with at most
eighteen digits behind the point; it shows as many places. -/
theorem parseShown_eq_ok_iff {text : String} {x : Decimal} :
    parseShown text = .ok x ↔ ∃ n : Numeral, n.DenotedBy text.toList ∧
      n.fraction.length = x.scale ∧ FitsDigits x.mantissa ∧
      (x.mantissa : ℚ) = n.value * 10 ^ x.scale := by
  constructor
  · intro h
    by_cases short : shownScale text.toList ≤ maxScale
    · rw [parseShown_eq_parseAt ⟨_, short⟩ rfl] at h
      obtain ⟨hscale, hm⟩ := parseAt_eq_ok_iff.1 h
      obtain ⟨n, hn, -, hdigits, hvalue⟩ := readMantissa_eq_ok_iff.1 hm
      refine ⟨n, hn, (shownScale_of_denotedBy hn).symm.trans hscale.symm, hdigits, ?_⟩
      rw [hscale]
      exact hvalue
    · rw [parseShown, readShown, dif_neg short] at h
      cases h
  · rintro ⟨n, hn, hlength, hdigits, hvalue⟩
    have hshown : shownScale text.toList = x.scale := (shownScale_of_denotedBy hn).trans hlength
    rw [parseShown_eq_parseAt x.ownScale hshown, parseAt_eq_ok_iff]
    exact ⟨rfl, readMantissa_eq_ok_iff.2
      ⟨n, hn, endsBy_of_length_le hlength.le, hdigits, hvalue⟩⟩

end Decimal

/-! ### Both readers -/

/-- **The readers accept the spellings of numerals and nothing else**, and what they yield is the
value.  At a given scale a text that denotes no numeral ending there is malformed, and a value of
more than eighteen digits overflows.  Whatever the text is, it is cut between characters only, and
a step on words goes wrong only where the value is too large. -/
theorem numerals_read_exactly (text : String) (scale : Scale) :
    (∀ m : Int, readMantissa text.toList scale.1 = .ok m ↔
      ∃ n : Numeral, n.DenotedBy text.toList ∧ n.EndsBy scale.1 ∧ FitsDigits m ∧
        (m : ℚ) = n.value * 10 ^ scale.1) ∧
    ((∃ fault, readMantissa text.toList scale.1 = .error (.malformedNumber fault)) ↔
      ¬∃ n : Numeral, n.DenotedBy text.toList ∧ n.EndsBy scale.1) ∧
    (readMantissa text.toList scale.1 = .error .overflow ↔
      ∃ n : Numeral, n.DenotedBy text.toList ∧ n.EndsBy scale.1 ∧
        (maxMantissa : ℚ) < |n.value * 10 ^ scale.1|) ∧
    (∀ x : Decimal, Decimal.parseShown text = .ok x ↔
      ∃ n : Numeral, n.DenotedBy text.toList ∧ n.fraction.length = x.scale ∧
        FitsDigits x.mantissa ∧ (x.mantissa : ℚ) = n.value * 10 ^ x.scale) ∧
    CutsFit (Text.trim text.toList) scale.1 ∧
    CutsFit (splitSign (Text.trim text.toList)).2 scale.1 ∧
    ∀ n : Numeral, n.DenotedBy text.toList → n.StepsFit scale.1 :=
  ⟨fun _ => readMantissa_eq_ok_iff, readMantissa_malformed_iff, readMantissa_overflow_iff,
    fun _ => Decimal.parseShown_eq_ok_iff, cutsFit _ _, cutsFit _ _,
    fun _ hn => stepsFit (denotedBy_iff.1 hn).2 scale⟩

end DecimalMoney
