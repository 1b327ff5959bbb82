import DecimalMoney.Bounds
import DecimalMoney.Numeral.Digits

/-!
# Writing numerals

The text of a mantissa at a scale: a minus sign for a number below zero, the integral digits
without leading zeros, and the places of the scale behind a point.

## Main definitions

* `DecimalMoney.writeInteger` : the text of an integer.
* `DecimalMoney.Places` : whether places that are all zero are written.
* `DecimalMoney.writeScaled` : the text of a mantissa at a scale.
-/

namespace DecimalMoney

/-- The text of an integer: its digits, after a minus sign if it is below zero. -/
def writeInteger (n : Int) : List Char :=
  (if n < 0 then ['-'] else []) ++ Numeral.digits n.natAbs

/-- Whether the places of a number are written when all of them are zero. -/
inductive Places where
  /-- Every place of the scale is written. -/
  | all
  /-- An integer is written without a point. -/
  | needed
  deriving DecidableEq, Repr

/-- The fraction of a number: a point and the places, or nothing. -/
def writeFraction (fraction scale : Nat) (places : Places) : List Char :=
  if scale = 0 ∨ (fraction = 0 ∧ places = .needed) then []
  else '.' :: Numeral.padded scale fraction

/-- The text of a mantissa at a scale.  The sign is that of the mantissa, since the integral part
of a number between minus one and zero has none. -/
def writeScaled (mantissa : Int) (scale : Nat) (places : Places) : List Char :=
  (if mantissa < 0 then ['-'] else []) ++ Numeral.digits (mantissa.natAbs / 10 ^ scale) ++
    writeFraction (mantissa.natAbs % 10 ^ scale) scale places

/-- At scale zero a mantissa is written as an integer. -/
theorem writeScaled_scale_zero (mantissa : Int) (places : Places) :
    writeScaled mantissa 0 places = writeInteger mantissa := by
  simp [writeScaled, writeInteger, writeFraction]

end DecimalMoney
