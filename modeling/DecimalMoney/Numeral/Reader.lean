import DecimalMoney.Numeral.Digits
import DecimalMoney.Rounding.Division

/-!
# Reading numerals

A numeral is an optional sign, digits, and optionally a point with further digits; on one side of
the point digits may be missing, and blanks around the numeral do not matter.  A numeral is read as
a mantissa, either at a scale that is given or at the one that the numeral shows.  Nothing is
rounded: what the scale cannot hold has to be zero.

## Main definitions

* `DecimalMoney.Numeral` : a text cut at its sign and its point.
* `DecimalMoney.Numeral.fault?` : what keeps a text from being a numeral at a scale.
* `DecimalMoney.Numeral.magnitudeAt` : the magnitude of a numeral in units of a scale.
* `DecimalMoney.readMantissa` : the mantissa at a given scale.
* `DecimalMoney.shownScale`, `DecimalMoney.readShown` : the scale that a numeral shows, and the
  mantissa at it.
-/

namespace DecimalMoney

/-- A text cut at its sign and its first point. -/
structure Numeral where
  /-- The sign is a minus. -/
  negative : Bool
  /-- What stands before the point. -/
  integral : List Char
  /-- What stands after the point. -/
  fraction : List Char
  deriving DecidableEq, Repr

namespace Numeral

/-- Cuts off a sign. -/
def splitSign : List Char → Bool × List Char
  | '-' :: body => (true, body)
  | '+' :: body => (false, body)
  | body => (false, body)

/-- What follows the first point of a text; nothing if there is none. -/
def afterPoint (text : List Char) : List Char := (text.dropWhile (· ≠ '.')).drop 1

/-- What comes before the first point of a text; the whole text if there is none. -/
def beforePoint (text : List Char) : List Char := text.takeWhile (· ≠ '.')

/-- Cuts a text at its sign and its first point. -/
def ofText (text : List Char) : Numeral :=
  let (negative, body) := splitSign text
  ⟨negative, beforePoint body, afterPoint body⟩

/-- A character that can be the sign of a number. -/
def isSign (c : Char) : Bool := c == '-' || c == '+'

/-- What keeps a text from being a numeral that a scale can hold.  The first fault counts. -/
def fault? (n : Numeral) (scale : Nat) : Option NumeralFault :=
  if n.integral = [] ∧ n.fraction = [] then some .noDigits
  else if n.fraction.head?.any isSign then some .signInFraction
  else if ¬ n.integral.all Char.isDigit then some .integralDigits
  else if ¬ n.fraction.all Char.isDigit then some .fractionalDigits
  else if (n.fraction.drop scale).any (· ≠ '0') then some .excessDigits
  else none

/-- The magnitude of a numeral in units of the last place of a scale.  Places of the scale that
the fraction does not show are zero. -/
def magnitudeAt (n : Numeral) (scale : Nat) : Nat :=
  let kept := n.fraction.take scale
  valueOf n.integral * 10 ^ scale + valueOf kept * 10 ^ (scale - kept.length)

/-- A point cuts a text in two. -/
theorem beforePoint_append_cons (before after : List Char) (h : ∀ c ∈ before, c ≠ '.') :
    beforePoint (before ++ '.' :: after) = before ∧
      afterPoint (before ++ '.' :: after) = after := by
  induction before with
  | nil => simp [beforePoint, afterPoint]
  | cons c cs ih =>
    have hc : c ≠ '.' := h c List.mem_cons_self
    have := ih fun d hd => h d (List.mem_cons_of_mem _ hd)
    simpa [beforePoint, afterPoint, hc] using this

/-- A text without a point has no fraction. -/
theorem beforePoint_eq_self (text : List Char) (h : ∀ c ∈ text, c ≠ '.') :
    beforePoint text = text ∧ afterPoint text = [] := by
  induction text with
  | nil => simp [beforePoint, afterPoint]
  | cons c cs ih =>
    have hc : c ≠ '.' := h c List.mem_cons_self
    have := ih fun d hd => h d (List.mem_cons_of_mem _ hd)
    simpa [beforePoint, afterPoint, hc] using this

end Numeral

/-- The mantissa at the given scale of the number that a text denotes. -/
def readMantissa (text : List Char) (scale : Nat) : Except Failure Int := do
  let _ ← checkScale scale
  let body := Text.trim text
  if body = [] then .error (.malformedNumber .emptyInput)
  else
    let n := Numeral.ofText body
    match n.fault? scale with
    | some fault => .error (.malformedNumber fault)
    | none => checkDigits (signed n.negative (n.magnitudeAt scale))

/-- The length of a text in UTF-8, in which a digit takes one byte. -/
def byteLength (text : List Char) : Nat := text.foldr (fun c length => c.utf8Size + length) 0

/-- The scale that a text shows: the length of what follows its first point. -/
def shownScale (text : List Char) : Nat := byteLength (Numeral.afterPoint (Text.trim text))

/-- The mantissa of the number that a text denotes, at the scale that the text shows. -/
def readShown (text : List Char) : Except Failure (Int × Scale) :=
  if h : shownScale text ≤ maxScale then do
    return (← readMantissa text (shownScale text), ⟨shownScale text, h⟩)
  else .error (.malformedNumber .longFraction)

end DecimalMoney
