import DecimalMoney.Failure
import DecimalMoney.Text.Blank

/-!
# Rounding modes

The eight ways to round a quotient, their names, and how a name is read.

## Main definitions

* `DecimalMoney.RoundingMode` : the modes.
* `DecimalMoney.RoundingMode.name`, `DecimalMoney.RoundingMode.variant` : the two spellings of a
  mode, `HALF_EVEN` in text and `HalfEven` in data.
* `DecimalMoney.RoundingMode.parse` : the mode that a text names.
* `DecimalMoney.RoundingMode.reflect` : the mode that does to negative numbers what the given one
  does to positive numbers.
-/

namespace DecimalMoney

/-- How a quotient that is no integer is rounded to one. -/
inductive RoundingMode where
  /-- Away from zero. -/
  | up
  /-- Toward zero. -/
  | down
  /-- Toward positive infinity. -/
  | ceiling
  /-- Toward negative infinity. -/
  | floor
  /-- To the nearest integer, a tie away from zero. -/
  | halfUp
  /-- To the nearest integer, a tie toward zero. -/
  | halfDown
  /-- To the nearest integer, a tie to the even one. -/
  | halfEven
  /-- Not at all: a quotient that is no integer is refused. -/
  | unnecessary
  deriving DecidableEq, Repr

namespace RoundingMode

/-- Ties to even, the mode that leaves no drift in long sums. -/
instance : Inhabited RoundingMode := ⟨halfEven⟩

/-- The modes, in the order in which they are numbered. -/
def all : List RoundingMode :=
  [up, down, ceiling, floor, halfUp, halfDown, halfEven, unnecessary]

/-- The name of a mode in text. -/
def name : RoundingMode → String
  | up => "UP"
  | down => "DOWN"
  | ceiling => "CEILING"
  | floor => "FLOOR"
  | halfUp => "HALF_UP"
  | halfDown => "HALF_DOWN"
  | halfEven => "HALF_EVEN"
  | unnecessary => "UNNECESSARY"

/-- The name of a mode in structured data. -/
def variant : RoundingMode → String
  | up => "Up"
  | down => "Down"
  | ceiling => "Ceiling"
  | floor => "Floor"
  | halfUp => "HalfUp"
  | halfDown => "HalfDown"
  | halfEven => "HalfEven"
  | unnecessary => "Unnecessary"

/-- The place of a mode in `all`. -/
def index (mode : RoundingMode) : Nat := all.idxOf mode

/-- The mode that a text names: blanks around the name and the case of its letters do not matter. -/
def parse (text : String) : Except Failure RoundingMode :=
  let wanted := Text.fold (Text.trim text.toList)
  match all.find? fun mode => Text.fold mode.name.toList == wanted with
  | some mode => .ok mode
  | none => .error (.malformedNumber .unknownMode)

/-- The mode that rounds `-x` to the negation of what the given mode makes of `x`: the two
directed modes that look at the sign trade places. -/
def reflect : RoundingMode → RoundingMode
  | ceiling => floor
  | floor => ceiling
  | mode => mode

@[simp] theorem reflect_reflect (mode : RoundingMode) : mode.reflect.reflect = mode := by
  cases mode <;> rfl

end RoundingMode

end DecimalMoney
