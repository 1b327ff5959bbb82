import DecimalMoney.Decimal.Format
import DecimalMoney.Json.Basic

/-!
# Decoding of structured data

What can go wrong when a value of JSON is read as something else, and the readers that all types
share: scalars, lists, choices between names, and records.

A record is an object, of which members with other names are ignored, or an array of its fields in
the order of their declaration.

## Main definitions

* `DecimalMoney.Expectation` : what a reader accepts.
* `DecimalMoney.DecodingFault`, `DecimalMoney.DecodingFault.message` : why a value was refused.
* `DecimalMoney.Json.toBoolean`, `DecimalMoney.Json.toText`, `DecimalMoney.Json.toByte`,
  `DecimalMoney.Json.toWord`, `DecimalMoney.Json.toList` : scalars and lists.
* `DecimalMoney.Json.toChoice` : one of several names.
* `DecimalMoney.Record`, `DecimalMoney.Record.unpack`, `DecimalMoney.Unpacked` : records.

## Main results

* `DecimalMoney.Json.toWord_integer` : a word is read from its integer.
-/

namespace DecimalMoney

/-! ### Faults -/

/-- A record as it is declared. -/
structure Record where
  name : String
  /-- The names of the fields, in the order of their declaration. -/
  fields : List String
  deriving DecidableEq, Repr

/-- What a reader accepts. -/
inductive Expectation where
  | boolean
  | text
  /-- A natural number below 256. -/
  | byte
  /-- A signed word of 64 bits. -/
  | word
  | list
  /-- A name, alone or as the only member of an object. -/
  | choice
  /-- What may stand beside the name of a choice. -/
  | nothing
  | record (record : Record)
  | decimal (format : Format)
  deriving DecidableEq, Repr

/-- What a reader accepts, in a report. -/
def Expectation.phrase : Expectation → String
  | boolean => "a boolean"
  | text => "a string"
  | byte => "u8"
  | word => "i64"
  | list => "a sequence"
  | choice => "string or map"
  | nothing => "unit"
  | record r => "struct " ++ r.name
  | decimal (.fixed scale) => s!"a decimal string or an integer with at most {scale.1} decimals"
  | decimal .free => "a decimal string or an integer"

/-- Why a value was refused. -/
inductive DecodingFault where
  /-- The value is of another kind. -/
  | unexpected (found : Json) (expected : Expectation)
  /-- An integer is not in the range of the type. -/
  | outOfRange (found : Int) (expected : Expectation)
  /-- An object that should hold one name has no member or several. -/
  | notSingle
  /-- A name is none of those to choose from. -/
  | unknownName (found : String) (known : List String)
  /-- An object lacks a field of a record. -/
  | missingField (field : String)
  /-- An array has fewer items than a record has fields. -/
  | tooShort (size : Nat) (record : Record)
  /-- An array has more items than a record has fields. -/
  | tooLong (size : Nat)
  /-- The value is not acceptable in its type. -/
  | refused (failure : Failure)

/-- A name between backquotes. -/
def backquoted (name : String) : String := "`" ++ name ++ "`"

/-- The sentence that reports a refused value. -/
def DecodingFault.message : DecodingFault → String
  | unexpected found expected =>
    "invalid type: " ++ found.describe ++ ", expected " ++ expected.phrase
  | outOfRange found expected =>
    "invalid value: " ++ (Json.integer found).describe ++ ", expected " ++ expected.phrase
  | notSingle => "invalid value: map, expected map with a single key"
  | unknownName found known =>
    "unknown variant " ++ backquoted found ++ ", expected one of " ++
      String.intercalate ", " (known.map backquoted)
  | missingField field => "missing field " ++ backquoted field
  | tooShort size record =>
    s!"invalid length {size}, expected struct {record.name} with {record.fields.length} elements"
  | tooLong size => s!"invalid length {size}, expected fewer elements in array"
  | refused failure => failure.message

/-- The outcome of a reader: a value, or the reason why there is none. -/
abbrev Decoded (α : Type) := Except DecodingFault α

/-- The result of an operation of the domain, as the outcome of a reader. -/
def Decoded.ofResult {α : Type} : Except Failure α → Decoded α
  | .ok a => .ok a
  | .error failure => .error (.refused failure)

theorem Decoded.ofResult_eq_ok_iff {α : Type} {result : Except Failure α} {a : α} :
    ofResult result = .ok a ↔ result = .ok a := by
  cases result <;> simp [ofResult]

namespace Json

/-! ### Scalars and lists -/

/-- A truth value. -/
def toBoolean : Json → Decoded Bool
  | boolean value => .ok value
  | other => .error (.unexpected other .boolean)

/-- A text. -/
def toText : Json → Decoded String
  | string value => .ok value
  | other => .error (.unexpected other .text)

/-- A natural number below 256. -/
def toByte : Json → Decoded Nat
  | integer value =>
    if 0 ≤ value ∧ value < 256 then .ok value.toNat else .error (.outOfRange value .byte)
  | other => .error (.unexpected other .byte)

/-- A signed word of 64 bits. -/
def toWord : Json → Decoded Int
  | integer value => if FitsWord value then .ok value else .error (.outOfRange value .word)
  | other => .error (.unexpected other .word)

/-- A list of values that one reader accepts. -/
def toList {α : Type} (read : Json → Decoded α) : Json → Decoded (List α)
  | array items => items.mapM read
  | other => .error (.unexpected other .list)

theorem toWord_integer {n : Int} (h : FitsWord n) : toWord (integer n) = .ok n := by
  simp [toWord, h]

theorem toByte_integer {n : Nat} (h : n < 256) : toByte (integer n) = .ok n := by
  have : (n : Int) < 256 := by omega
  simp [toByte, this]

/-! ### Choices -/

/-- The value with the given name. -/
def chosen {α : Type} (choices : List α) (nameOf : α → String) (name : String) : Decoded α :=
  match choices.find? (nameOf · == name) with
  | some a => .ok a
  | none => .error (.unknownName name (choices.map nameOf))

/-- One of several values, by name: a text, or an object whose only member has that name and no
value. -/
def toChoice {α : Type} (choices : List α) (nameOf : α → String) : Json → Decoded α
  | string name => chosen choices nameOf name
  | object [(name, value)] => do
    let choice ← chosen choices nameOf name
    match value with
    | null => .ok choice
    | other => .error (.unexpected other .nothing)
  | object _ => .error .notSingle
  | other => .error (.unexpected other .choice)

end Json

/-! ### Records -/

/-- A record whose fields are about to be read. -/
structure Unpacked where
  record : Record
  /-- The fields that are present, by name. -/
  present : List (String × Json)
  /-- The number of items, if the record is an array. -/
  size : Option Nat

/-- The fields of a record in a value. -/
def Record.unpack (record : Record) : Json → Decoded Unpacked
  | .object members => .ok { record, present := members, size := none }
  | .array items =>
    .ok { record, present := record.fields.zip items, size := some items.length }
  | other => .error (.unexpected other (.record record))

namespace Unpacked

/-- A field, if it is present. -/
def read? {α : Type} (r : Unpacked) (field : String) (read : Json → Decoded α) :
    Decoded (Option α) :=
  match r.present.lookup field with
  | none => .ok none
  | some value => do return some (← read value)

/-- The value of a field that has been read and must not be missing. -/
def require {α : Type} (r : Unpacked) (field : String) : Option α → Decoded α
  | some a => .ok a
  | none =>
    match r.size with
    | none => .error (.missingField field)
    | some size => .error (.tooShort size r.record)

/-- Refuses an array with more items than the record has fields. -/
def close (r : Unpacked) : Decoded Unit :=
  match r.size with
  | none => .ok ()
  | some size => if r.record.fields.length < size then .error (.tooLong size) else .ok ()

end Unpacked

end DecimalMoney
