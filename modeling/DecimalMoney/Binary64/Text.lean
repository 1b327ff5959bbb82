import DecimalMoney.Binary64.Shortest
import DecimalMoney.Numeral.Digits

/-!
# Texts of binary floats

A binary float is written with its shortest digits: with all places where its first digit is at
most five places behind the point and at most sixteen before it, otherwise with an exponent.

## Main definitions

* `DecimalMoney.Binary64.Scientific.render` : the layout of the digits.
* `DecimalMoney.Binary64.render` : the text of a float.
-/

namespace DecimalMoney.Binary64

namespace Scientific

/-- The power of ten that the first digit stands for. -/
def exponent (s : Scientific) : Int := s.power + ((Numeral.digits s.digits).length - 1)

/-- The number with all its places, and at least one place behind the point. -/
def renderPositional (s : Scientific) : List Char :=
  let ds := Numeral.digits s.digits
  if 0 ≤ s.power then ds ++ List.replicate s.power.toNat '0' ++ ['.', '0']
  else if 0 ≤ s.exponent then
    ds.take (s.exponent.toNat + 1) ++ '.' :: ds.drop (s.exponent.toNat + 1)
  else ['0', '.'] ++ List.replicate (-s.exponent - 1).toNat '0' ++ ds

/-- The number as a digit, the other digits behind a point, and an exponent, which is written with
its sign, also if that is a plus, and without leading zeros. -/
def renderExponential (s : Scientific) : List Char :=
  let ds := Numeral.digits s.digits
  let fraction := ds.drop 1
  ds.take 1 ++ (if fraction.isEmpty then [] else '.' :: fraction) ++
    ['e', if s.exponent < 0 then '-' else '+'] ++ Numeral.digits s.exponent.natAbs

/-- The text of the number. -/
def render (s : Scientific) : List Char :=
  if -5 ≤ s.exponent ∧ s.exponent ≤ 15 then s.renderPositional else s.renderExponential

end Scientific

/-- The text of a float.  A zero keeps its sign. -/
def render (x : Float) : List Char :=
  let bits := x.toBits
  let sign := if bits < 0x8000000000000000 then [] else ['-']
  let magnitude := Magnitude.ofBits bits
  if x.isNaN then ['N', 'a', 'N']
  else if x.isInf then sign ++ ['i', 'n', 'f']
  else if magnitude.mantissa = 0 then sign ++ ['0', '.', '0']
  else sign ++ (shortest magnitude).render

end DecimalMoney.Binary64
