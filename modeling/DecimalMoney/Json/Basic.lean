import DecimalMoney.Binary64.Text
import DecimalMoney.Text.Quoted

/-!
# Structured data

Values of JSON, as trees.  A number is an integer or a binary float, and the members of an object
have distinct names.

## Main definitions

* `DecimalMoney.Json` : a value.
* `DecimalMoney.Json.describe` : the kind of a value, in a report on data of the wrong kind.
-/

namespace DecimalMoney

/-- A value of JSON. -/
inductive Json where
  | null
  | boolean (value : Bool)
  | integer (value : Int)
  | float (value : Float)
  | string (value : String)
  | array (items : List Json)
  /-- Members by name, in the order of their names. -/
  | object (members : List (String × Json))
  deriving Inhabited

namespace Json

/-- The kind of a value, with the value itself where it is short. -/
def describe : Json → String
  | null => "null"
  | boolean value => s!"boolean `{value}`"
  | integer value => s!"integer `{value}`"
  | float value => "floating point `" ++ String.ofList (Binary64.render value) ++ "`"
  | string value => "string " ++ Text.quoted value
  | array _ => "sequence"
  | object _ => "map"

end Json

end DecimalMoney
