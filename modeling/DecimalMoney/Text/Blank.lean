/-!
# Blanks

The characters that Unicode calls white space, and the removal of blanks from both ends of a text.

## Main definitions

* `DecimalMoney.Text.isBlank` : the character has the property `White_Space`.
* `DecimalMoney.Text.trim` : the text without the blanks at its ends.
* `DecimalMoney.Text.fold` : the text with its ASCII letters in lower case.

## Main results

* `DecimalMoney.Text.exists_append_trim`, `DecimalMoney.Text.trim_append` : trimming removes the
  blanks at both ends and nothing else.
-/

namespace DecimalMoney.Text

/-- The character has the Unicode property `White_Space`: twenty-five characters in ten ranges. -/
def isBlank (c : Char) : Bool :=
  let n := c.toNat
  (0x9 ≤ n && n ≤ 0xD) || n == 0x20 || n == 0x85 || n == 0xA0 || n == 0x1680 ||
    (0x2000 ≤ n && n ≤ 0x200A) || n == 0x2028 || n == 0x2029 || n == 0x202F || n == 0x205F ||
    n == 0x3000

/-- A digit is no blank. -/
theorem isBlank_eq_false_of_isDigit {c : Char} (h : c.isDigit = true) : isBlank c = false := by
  have h48 : 48 ≤ c.toNat ∧ c.toNat ≤ 57 := by
    simpa [Char.isDigit, UInt32.le_iff_toNat_le] using h
  simp only [isBlank, Bool.or_eq_false_iff, Bool.and_eq_false_iff, decide_eq_false_iff_not,
    beq_eq_false_iff_ne]
  omega

/-- The text without the blanks at its beginning and at its end. -/
def trim (text : List Char) : List Char :=
  ((text.dropWhile isBlank).reverse.dropWhile isBlank).reverse

/-- The text with its ASCII letters in lower case; every other character stays as it is. -/
def fold (text : List Char) : List Char := text.map Char.toLower

/-- Nothing is dropped from a text that does not begin with a blank. -/
theorem dropWhile_isBlank_eq_self {text : List Char} (head : ∀ c ∈ text.head?, isBlank c = false) :
    text.dropWhile isBlank = text := by
  cases text with
  | nil => rfl
  | cons c text => simp [head c rfl]

/-- Only blanks are removed, and only at the ends. -/
theorem exists_append_trim (text : List Char) : ∃ leading trailing,
    text = leading ++ trim text ++ trailing ∧ (∀ c ∈ leading, isBlank c = true) ∧
      ∀ c ∈ trailing, isBlank c = true := by
  have front := List.takeWhile_append_dropWhile (p := isBlank) (l := text)
  have back := List.takeWhile_append_dropWhile (p := isBlank)
    (l := (text.dropWhile isBlank).reverse)
  refine ⟨text.takeWhile isBlank, ((text.dropWhile isBlank).reverse.takeWhile isBlank).reverse,
    ?_, List.all_eq_true.1 List.all_takeWhile, fun c hc => ?_⟩
  · rw [trim, List.append_assoc, ← List.reverse_append, back, List.reverse_reverse, front]
  · exact List.all_eq_true.1 List.all_takeWhile c (List.mem_reverse.1 hc)

/-- Blanks around a text without blanks are removed. -/
theorem trim_append {leading core trailing : List Char}
    (hleading : ∀ c ∈ leading, isBlank c = true) (hcore : ∀ c ∈ core, isBlank c = false)
    (htrailing : ∀ c ∈ trailing, isBlank c = true) :
    trim (leading ++ core ++ trailing) = core := by
  have front : (leading ++ core ++ trailing).dropWhile isBlank =
      (core ++ trailing).dropWhile isBlank := by
    rw [List.append_assoc, List.dropWhile_append_of_pos hleading]
  rw [trim, front]
  cases core with
  | nil =>
    rw [List.nil_append, ← List.append_nil trailing, List.dropWhile_append_of_pos htrailing]
    rfl
  | cons c core =>
    have head : ∀ d ∈ (c :: core ++ trailing).head?, isBlank d = false := by
      simpa using hcore c List.mem_cons_self
    have last : ∀ d ∈ (c :: core).reverse.head?, isBlank d = false :=
      fun d hd => hcore d (List.mem_reverse.1 (List.mem_of_mem_head? hd))
    rw [dropWhile_isBlank_eq_self head, List.reverse_append,
      List.dropWhile_append_of_pos fun d hd => htrailing d (List.mem_reverse.1 hd),
      dropWhile_isBlank_eq_self last, List.reverse_reverse]

end DecimalMoney.Text
