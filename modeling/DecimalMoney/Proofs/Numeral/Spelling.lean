import DecimalMoney.Numeral.Reader
import DecimalMoney.Proofs.Rounding.Truncated

/-!
# Spellings of numerals

A numeral is spelled as a sign, which a number not below zero need not have, the digits before the
point, and the digits behind it.  Blanks may stand around all of this.  The rule is stated here
without the reader; a text that follows it spells one numeral only, the one that the reader cuts
out of it.

## Main definitions

* `DecimalMoney.Numeral.SignText`, `DecimalMoney.Numeral.FractionText` : the texts of a sign and of
  a fraction.
* `DecimalMoney.Numeral.WellFormed` : all digits are digits, and there is one.
* `DecimalMoney.Numeral.SpelledBy`, `DecimalMoney.Numeral.DenotedBy` : the texts of a numeral,
  without blanks and with them.
* `DecimalMoney.Numeral.EndsBy` : no digit beyond a number of places counts.
* `DecimalMoney.Numeral.value` : the number that a numeral denotes.

## Main results

* `DecimalMoney.Numeral.denotedBy_iff` : a text denotes the numeral that is cut out of it, if that
  is well-formed.
* `DecimalMoney.Numeral.fault?_eq_none_iff` : a numeral without a fault is well-formed and ends by
  the scale.
* `DecimalMoney.Numeral.cast_signed_magnitudeAt`,
  `DecimalMoney.Numeral.fract_value_mul_ten_pow_ne_zero` : the magnitude at a scale, with its sign,
  is the value in units of that scale, if the numeral ends by it; otherwise that is no integer.
-/

namespace DecimalMoney.Numeral

/-! ### Texts -/

/-- The texts of a sign.  A number that is not below zero need not show one. -/
inductive SignText : Bool → List Char → Prop
  | none : SignText false []
  | plus : SignText false ['+']
  | minus : SignText true ['-']

/-- The texts of the digits behind the point, with the point.  Without digits it may be missing. -/
inductive FractionText : List Char → List Char → Prop
  | none : FractionText [] []
  | point (digits : List Char) : FractionText digits ('.' :: digits)

/-- What stands for digits are digits, and there is at least one of them. -/
structure WellFormed (n : Numeral) : Prop where
  integral : ∀ c ∈ n.integral, c.isDigit = true
  fraction : ∀ c ∈ n.fraction, c.isDigit = true
  digits_ne_nil : n.integral ≠ [] ∨ n.fraction ≠ []

/-- The text is a sign, digits and a fraction, and those of the numeral. -/
def SpelledBy (n : Numeral) (text : List Char) : Prop :=
  n.WellFormed ∧ ∃ sign fraction, SignText n.negative sign ∧ FractionText n.fraction fraction ∧
    text = sign ++ n.integral ++ fraction

/-- The text is a spelling of the numeral between blanks. -/
def DenotedBy (n : Numeral) (text : List Char) : Prop :=
  ∃ leading core trailing, text = leading ++ core ++ trailing ∧
    (∀ c ∈ leading, Text.isBlank c = true) ∧ (∀ c ∈ trailing, Text.isBlank c = true) ∧
    n.SpelledBy core

/-- All digits of the numeral beyond a number of places are zeros. -/
def EndsBy (n : Numeral) (places : Nat) : Prop := ∀ c ∈ n.fraction.drop places, c = '0'

/-- The number that a numeral denotes. -/
def value (n : Numeral) : ℚ :=
  signFactor n.negative * (valueOf n.integral + valueOf n.fraction / 10 ^ n.fraction.length)

/-! ### Digits are nothing else -/

/-- The codes of the digits. -/
theorem toNat_of_isDigit {c : Char} (h : c.isDigit = true) : 48 ≤ c.toNat ∧ c.toNat ≤ 57 := by
  simpa [Char.isDigit, UInt32.le_iff_toNat_le] using h

theorem ne_of_isDigit {c d : Char} (hc : c.isDigit = true) (hd : d.isDigit = false) : c ≠ d := by
  rintro rfl
  rw [hc] at hd
  cases hd

theorem isSign_eq_false_of_isDigit {c : Char} (h : c.isDigit = true) : isSign c = false := by
  simp [isSign, ne_of_isDigit h (d := '-') rfl, ne_of_isDigit h (d := '+') rfl]

theorem SignText.isBlank_eq_false {negative : Bool} {sign : List Char}
    (h : SignText negative sign) : ∀ c ∈ sign, Text.isBlank c = false := by
  cases h with
  | none => exact List.forall_mem_nil _
  | plus | minus => exact List.forall_mem_singleton.2 rfl

theorem FractionText.isBlank_eq_false {digits fraction : List Char}
    (h : FractionText digits fraction) (hdigits : ∀ c ∈ digits, Text.isBlank c = false) :
    ∀ c ∈ fraction, Text.isBlank c = false := by
  cases h with
  | none => exact hdigits
  | point => exact List.forall_mem_cons.2 ⟨rfl, hdigits⟩

/-- No character of a spelling is blank. -/
theorem SpelledBy.isBlank_eq_false {n : Numeral} {text : List Char} (h : n.SpelledBy text) :
    ∀ c ∈ text, Text.isBlank c = false := by
  obtain ⟨hn, sign, fraction, hsign, hfraction, rfl⟩ := h
  intro c hc
  rw [List.append_assoc, List.mem_append, List.mem_append] at hc
  rcases hc with hc | hc | hc
  · exact hsign.isBlank_eq_false c hc
  · exact Text.isBlank_eq_false_of_isDigit (hn.integral c hc)
  · exact hfraction.isBlank_eq_false
      (fun d hd => Text.isBlank_eq_false_of_isDigit (hn.fraction d hd)) c hc

/-! ### The cuts of the reader -/

/-- What is cut off in front is the text of a sign. -/
theorem exists_signText (text : List Char) :
    ∃ sign, SignText (splitSign text).1 sign ∧ text = sign ++ (splitSign text).2 := by
  unfold splitSign
  split
  · exact ⟨['-'], .minus, rfl⟩
  · exact ⟨['+'], .plus, rfl⟩
  · exact ⟨[], .none, rfl⟩

/-- What follows the digits before the point is the text of the fraction. -/
theorem exists_fractionText (body : List Char) :
    ∃ fraction, FractionText (afterPoint body) fraction ∧ body = beforePoint body ++ fraction := by
  have hbody : body = beforePoint body ++ body.dropWhile (· ≠ '.') :=
    List.takeWhile_append_dropWhile.symm
  cases hrest : body.dropWhile (· ≠ '.') with
  | nil =>
    rw [hrest] at hbody
    refine ⟨[], ?_, hbody⟩
    rw [afterPoint, hrest]
    exact .none
  | cons c digits =>
    have hpoint : c = '.' := by
      have hhead := List.head?_dropWhile_not (· ≠ '.') body
      rw [hrest] at hhead
      simpa using hhead
    rw [hrest, hpoint] at hbody
    refine ⟨'.' :: digits, ?_, hbody⟩
    rw [afterPoint, hrest]
    exact .point digits

theorem splitSign_append {negative : Bool} {sign body : List Char} (h : SignText negative sign)
    (unsigned : ∀ c ∈ body.head?, isSign c = false) :
    splitSign (sign ++ body) = (negative, body) := by
  cases h with
  | plus | minus => rfl
  | none =>
    cases body with
    | nil => rfl
    | cons c body =>
      have hc : c ≠ '-' ∧ c ≠ '+' := by simpa [isSign] using unsigned c rfl
      simp [splitSign, hc]

theorem ofText_append {negative : Bool} {sign integral digits fraction : List Char}
    (hsign : SignText negative sign) (hfraction : FractionText digits fraction)
    (hintegral : ∀ c ∈ integral, c.isDigit = true) :
    ofText (sign ++ integral ++ fraction) = ⟨negative, integral, digits⟩ := by
  have pointless : ∀ c ∈ integral, c ≠ '.' := fun c hc => ne_of_isDigit (hintegral c hc) rfl
  have unsigned : ∀ c ∈ (integral ++ fraction).head?, isSign c = false := by
    cases integral with
    | nil => cases hfraction <;> simp [isSign]
    | cons d integral =>
      simpa using isSign_eq_false_of_isDigit (hintegral d List.mem_cons_self)
  have cut : beforePoint (integral ++ fraction) = integral ∧
      afterPoint (integral ++ fraction) = digits := by
    cases hfraction with
    | none =>
      rw [List.append_nil]
      exact beforePoint_eq_self integral pointless
    | point => exact beforePoint_append_cons integral digits pointless
  rw [ofText, List.append_assoc, splitSign_append hsign unsigned]
  simp only [cut]

/-- A text spells the numeral that is cut out of it and no other. -/
theorem spelledBy_iff {n : Numeral} {text : List Char} :
    n.SpelledBy text ↔ ofText text = n ∧ n.WellFormed := by
  constructor
  · rintro ⟨hn, sign, fraction, hsign, hfraction, rfl⟩
    exact ⟨ofText_append hsign hfraction hn.integral, hn⟩
  · rintro ⟨rfl, hn⟩
    obtain ⟨sign, hsign, htext⟩ := exists_signText text
    obtain ⟨fraction, hfraction, hbody⟩ := exists_fractionText (splitSign text).2
    refine ⟨hn, sign, fraction, hsign, hfraction, ?_⟩
    rw [hbody] at htext
    rw [List.append_assoc]
    exact htext

/-- **A text denotes the numeral that is cut out of it**, once the blanks at its ends are gone, and
no other; and this one only if it is well-formed. -/
theorem denotedBy_iff {n : Numeral} {text : List Char} :
    n.DenotedBy text ↔ ofText (Text.trim text) = n ∧ n.WellFormed := by
  rw [← spelledBy_iff]
  constructor
  · rintro ⟨leading, core, trailing, rfl, hleading, htrailing, hcore⟩
    rwa [Text.trim_append hleading hcore.isBlank_eq_false htrailing]
  · intro h
    obtain ⟨leading, trailing, htext, hleading, htrailing⟩ := Text.exists_append_trim text
    exact ⟨leading, Text.trim text, trailing, htext, hleading, htrailing, h⟩

/-- A numeral ends by a scale with room for all its digits behind the point. -/
theorem endsBy_of_length_le {n : Numeral} {scale : Nat} (h : n.fraction.length ≤ scale) :
    n.EndsBy scale := by
  rw [EndsBy, List.drop_eq_nil_of_le h]
  exact List.forall_mem_nil _

/-- A well-formed numeral can only have too many digits behind the point. -/
theorem WellFormed.fault?_eq {n : Numeral} (hn : n.WellFormed) (scale : Nat) :
    n.fault? scale =
      if (n.fraction.drop scale).any (· ≠ '0') then some .excessDigits else none := by
  have none : ¬(n.integral = [] ∧ n.fraction = []) := not_and_or.2 hn.digits_ne_nil
  have unsigned : n.fraction.head?.any isSign = false := by
    cases hfraction : n.fraction with
    | nil => rfl
    | cons c fraction =>
      exact isSign_eq_false_of_isDigit (hn.fraction c (hfraction ▸ List.mem_cons_self))
  simp only [fault?, none, unsigned, List.all_eq_true.2 hn.integral,
    List.all_eq_true.2 hn.fraction, if_false, not_true_eq_false, Bool.false_eq_true]

theorem any_ne_zero_eq_false_iff {n : Numeral} {scale : Nat} :
    (n.fraction.drop scale).any (· ≠ '0') = false ↔ n.EndsBy scale := by
  simp [EndsBy]

/-- A numeral is without a fault if it is well-formed and ends by the scale. -/
theorem fault?_eq_none_iff {n : Numeral} {scale : Nat} :
    n.fault? scale = none ↔ n.WellFormed ∧ n.EndsBy scale := by
  constructor
  · intro h
    unfold fault? at h
    split_ifs at h with none sign integral fraction excess
    rw [List.all_eq_true] at integral fraction
    exact ⟨⟨integral, fraction, not_and_or.1 none⟩,
      any_ne_zero_eq_false_iff.1 (Bool.eq_false_of_not_eq_true excess)⟩
  · rintro ⟨hn, hends⟩
    rw [hn.fault?_eq, any_ne_zero_eq_false_iff.2 hends]
    rfl

/-- If it is well-formed and does not end by the scale, its fault is the digits in excess. -/
theorem WellFormed.fault?_of_not_endsBy {n : Numeral} {scale : Nat} (hn : n.WellFormed)
    (h : ¬n.EndsBy scale) : n.fault? scale = some .excessDigits := by
  rw [hn.fault?_eq, if_pos]
  exact Bool.eq_true_of_not_eq_false (mt any_ne_zero_eq_false_iff.1 h)

/-! ### Values -/

theorem valueOf_append (front back : List Char) :
    valueOf (front ++ back) = valueOf front * 10 ^ back.length + valueOf back := by
  induction back using List.reverseRecOn with
  | nil => simp
  | append_singleton back c ih =>
    rw [← List.append_assoc, valueOf_append_singleton, valueOf_append_singleton, ih,
      List.length_append, List.length_singleton, pow_succ]
    ring

theorem valueOf_eq_zero {digits : List Char} (h : ∀ c ∈ digits, c = '0') : valueOf digits = 0 := by
  rw [List.eq_replicate_of_mem h, ← List.append_nil (List.replicate _ _),
    valueOf_replicate_zero_append]
  rfl

/-- Digits stand for a number of at most as many digits. -/
theorem valueOf_lt {digits : List Char} (h : ∀ c ∈ digits, c.isDigit = true) :
    valueOf digits < 10 ^ digits.length := by
  induction digits using List.reverseRecOn with
  | nil => simp
  | append_singleton digits c ih =>
    have hdigit : digitValue c < 10 := by
      have := toNat_of_isDigit (h c (by simp))
      unfold digitValue
      omega
    have := ih fun d hd => h d (List.mem_append_left _ hd)
    rw [valueOf_append_singleton, List.length_append, List.length_singleton, pow_succ]
    omega

/-- Digits stand for zero if they are zeros. -/
theorem valueOf_eq_zero_iff {digits : List Char} (h : ∀ c ∈ digits, c.isDigit = true) :
    valueOf digits = 0 ↔ ∀ c ∈ digits, c = '0' := by
  refine ⟨fun zero => ?_, valueOf_eq_zero⟩
  induction digits using List.reverseRecOn with
  | nil => exact List.forall_mem_nil _
  | append_singleton digits c ih =>
    rw [List.forall_mem_append, List.forall_mem_singleton] at h ⊢
    rw [valueOf_append_singleton] at zero
    have hc := toNat_of_isDigit h.2
    unfold digitValue at zero
    refine ⟨ih h.1 (by omega), ?_⟩
    have code : c.toNat = 48 := by omega
    rw [← Char.ofNat_toNat c, code]

/-- The digits behind the point are those that a scale shows and the rest, which is less than one in
units of that scale. -/
theorem valueOf_fraction_div (n : Numeral) (scale : Nat) :
    (valueOf n.fraction : ℚ) / 10 ^ n.fraction.length * 10 ^ scale =
      valueOf (n.fraction.take scale) * 10 ^ (scale - (n.fraction.take scale).length) +
        valueOf (n.fraction.drop scale) / 10 ^ (n.fraction.drop scale).length := by
  have hlength : n.fraction.length =
      (n.fraction.take scale).length + (n.fraction.drop scale).length := by
    rw [← List.length_append, List.take_append_drop]
  have hvalue : valueOf n.fraction = valueOf (n.fraction.take scale) *
      10 ^ (n.fraction.drop scale).length + valueOf (n.fraction.drop scale) := by
    rw [← valueOf_append, List.take_append_drop]
  have hscale : (10 : ℚ) ^ scale =
      10 ^ (n.fraction.take scale).length * 10 ^ (scale - (n.fraction.take scale).length) := by
    rw [← pow_add, Nat.add_sub_cancel' (List.length_take_le _ _)]
  -- Either the scale shows all digits or it has no further places.
  have hrest : (valueOf (n.fraction.drop scale) : ℚ) *
      10 ^ (scale - (n.fraction.take scale).length) = valueOf (n.fraction.drop scale) := by
    rcases le_total n.fraction.length scale with all | few
    · rw [List.drop_eq_nil_of_le all, valueOf_nil, Nat.cast_zero, zero_mul]
    · rw [List.length_take_of_le few, Nat.sub_self, pow_zero, mul_one]
  have hten : ∀ k : Nat, (10 : ℚ) ^ k ≠ 0 := fun k => pow_ne_zero k (by norm_num)
  rw [hvalue, hlength, hscale, pow_add]
  push_cast
  field_simp [hten]
  linear_combination hrest

/-- **The value in units of a scale** is the magnitude there and what stands beyond the scale. -/
theorem value_mul_ten_pow (n : Numeral) (scale : Nat) :
    n.value * 10 ^ scale = signFactor n.negative * (n.magnitudeAt scale +
      valueOf (n.fraction.drop scale) / 10 ^ (n.fraction.drop scale).length) := by
  rw [value, mul_assoc, add_mul, valueOf_fraction_div, magnitudeAt]
  push_cast
  ring

/-- **The magnitude at a scale, with its sign, is the value in units of that scale**, if no digit
beyond the scale counts. -/
theorem cast_signed_magnitudeAt {n : Numeral} {scale : Nat} (h : n.EndsBy scale) :
    ((signed n.negative (n.magnitudeAt scale) : Int) : ℚ) = n.value * 10 ^ scale := by
  rw [value_mul_ten_pow, valueOf_eq_zero h, Nat.cast_zero, zero_div, add_zero, cast_signed]

/-- **It is an integer only then.** -/
theorem fract_value_mul_ten_pow_ne_zero {n : Numeral} {scale : Nat} (hn : n.WellFormed)
    (h : ¬n.EndsBy scale) : Int.fract (n.value * 10 ^ scale) ≠ 0 := by
  have digits : ∀ c ∈ n.fraction.drop scale, c.isDigit = true := fun c hc =>
    hn.fraction c (List.mem_of_mem_drop hc)
  have counts : 0 < valueOf (n.fraction.drop scale) :=
    Nat.pos_of_ne_zero (mt (valueOf_eq_zero_iff digits).1 h)
  have small : valueOf (n.fraction.drop scale) < 10 ^ (n.fraction.drop scale).length :=
    valueOf_lt digits
  rw [value_mul_ten_pow]
  generalize valueOf (n.fraction.drop scale) = rest at *
  generalize (n.fraction.drop scale).length = places at *
  have hfract : Int.fract ((n.magnitudeAt scale : ℚ) + rest / 10 ^ places) =
      rest / 10 ^ places := by
    rw [Int.fract_natCast_add]
    refine Int.fract_eq_self.2 ⟨by positivity, ?_⟩
    rw [div_lt_one (by positivity)]
    exact_mod_cast small
  have hrest : (rest : ℚ) / 10 ^ places ≠ 0 := by positivity
  cases n.negative with
  | false => rwa [signFactor, if_neg Bool.false_ne_true, one_mul, hfract]
  | true => rwa [signFactor, if_pos rfl, neg_one_mul, ne_eq, Int.fract_neg_eq_zero, hfract]

end DecimalMoney.Numeral
