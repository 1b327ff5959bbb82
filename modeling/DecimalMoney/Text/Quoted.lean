import DecimalMoney.Text.Printable

/-!
# Quoted text

A text between double quotes, in which quotes, backslashes and all characters that are not printable
are written as escapes, so that a report shows exactly which characters a text has.

## Main definitions

* `DecimalMoney.Text.escape` : one character of a quoted text.
* `DecimalMoney.Text.quoted` : a quoted text.

## Main results

* `DecimalMoney.Text.quoted_of_plain` : a text without anything to escape is quoted as it is.
-/

namespace DecimalMoney.Text

/-- A number in lower-case hexadecimal digits. -/
def hexadecimal (n : Nat) : List Char := Nat.toDigits 16 n

/-- A character as it is written between quotes.  Five characters have an escape of their own; a
character that is not printable is written as its code point. -/
def escape : Char → List Char
  | '"' => ['\\', '"']
  | '\\' => ['\\', '\\']
  | '\n' => ['\\', 'n']
  | '\r' => ['\\', 'r']
  | '\t' => ['\\', 't']
  | c =>
    if c.toNat = 0 then ['\\', '0']
    else if isPrintable c then [c]
    else ['\\', 'u', '\x7b'] ++ hexadecimal c.toNat ++ ['\x7d']

/-- A text between double quotes. -/
def quoted (text : String) : String :=
  String.ofList ('"' :: text.toList.flatMap escape ++ ['"'])

/-- A printable character other than quote and backslash is written as it is. -/
theorem escape_of_isPrintable {c : Char} (printable : isPrintable c = true) (quote : c ≠ '"')
    (backslash : c ≠ '\\') : escape c = [c] := by
  have unprintable : ∀ d : Char, isPrintable d = false → c ≠ d := by
    rintro d hd rfl
    simp [printable] at hd
  have newline := unprintable '\n' (by decide +kernel)
  have carriageReturn := unprintable '\r' (by decide +kernel)
  have tab := unprintable '\t' (by decide +kernel)
  have zero : c.toNat ≠ 0 := by
    intro h
    refine unprintable (Char.ofNat 0) (by decide +kernel) ?_
    rw [← h, Char.ofNat_toNat]
  unfold escape
  split <;> simp_all

/-- A text without anything to escape is quoted as it is. -/
theorem quoted_of_plain {text : String}
    (plain : ∀ c ∈ text.toList, isPrintable c = true ∧ c ≠ '"' ∧ c ≠ '\\') :
    quoted text = "\"" ++ text ++ "\"" := by
  have unchanged : ∀ cs : List Char,
      (∀ c ∈ cs, isPrintable c = true ∧ c ≠ '"' ∧ c ≠ '\\') → cs.flatMap escape = cs := by
    intro cs h
    induction cs with
    | nil => rfl
    | cons c cs ih =>
      have head := h c List.mem_cons_self
      rw [List.flatMap_cons, escape_of_isPrintable head.1 head.2.1 head.2.2,
        ih fun d hd => h d (List.mem_cons_of_mem _ hd)]
      rfl
  rw [quoted, unchanged _ plain]
  apply String.toList_injective
  simp

end DecimalMoney.Text
