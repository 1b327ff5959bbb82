import DecimalMoney.Amount.Basic
import DecimalMoney.Json.Decoding

/-!
# Structured data of decimals, currencies and amounts

A decimal is a text, so that no reader takes it for a binary float; an integer is accepted too.
Currencies and amounts are records, whose invariants are checked when they are read.

## Main definitions

* `DecimalMoney.Format.toJson`, `DecimalMoney.Format.ofJson` : decimals in a format.
* `DecimalMoney.Currency.toJson`, `DecimalMoney.Currency.ofJson` : currencies.
* `DecimalMoney.Amount.toJson`, `DecimalMoney.Amount.ofJson` : amounts.

## Main results

* `DecimalMoney.Currency.ofJson_toJson` : a currency is read back from its record.
-/

namespace DecimalMoney

/-! ### Decimals -/

namespace Format

/-- A decimal in structured data. -/
def toJson (format : Format) (x : Decimal) : Json := .string (format.render x)

/-- The decimal in a value: a text in the format, or an integer that fits a signed word. -/
def ofJson (format : Format) : Json → Decoded Decimal
  | .string text => .ofResult (format.parse text)
  | .integer n => .ofResult do format.ofInteger (← checkWord n)
  | other => .error (.unexpected other (.decimal format))

end Format

/-! ### Currencies -/

namespace Currency

/-- The record of a currency. -/
def record : Record := ⟨"CurrencyWire", ["code", "decimals"]⟩

/-- A currency in structured data. -/
def toJson (c : Currency) : Json :=
  .object [("code", .string c.code), ("decimals", .integer c.decimals)]

/-- The currency in a value. -/
def ofJson (value : Json) : Decoded Currency := do
  let r ← record.unpack value
  let code ← r.read? "code" Json.toText
  let decimals ← r.read? "decimals" Json.toByte
  let code ← r.require "code" code
  let decimals ← r.require "decimals" decimals
  r.close
  Decoded.ofResult (ofCode code decimals)

/-- A currency is read back from its record. -/
theorem ofJson_toJson (c : Currency) : ofJson c.toJson = .ok c := by
  have small : c.decimals < 256 := Nat.lt_of_le_of_lt c.decimals_le (by decide)
  simp [ofJson, toJson, Record.unpack, Unpacked.read?, Unpacked.require, Unpacked.close,
    bind, Except.bind, pure, Except.pure, List.lookup_cons, Json.toText,
    Json.toByte_integer small, Decoded.ofResult]

end Currency

/-! ### Amounts -/

namespace Amount

/-- The record of an amount. -/
def record : Record := ⟨"AmountWire", ["currency", "gross", "components"]⟩

/-- An amount in structured data. -/
def toJson (a : Amount) : Json :=
  .object [
    ("components", .array (a.components.map Json.integer)),
    ("currency", a.currency.toJson),
    ("gross", .integer a.gross)]

/-- The amount in a value.  An amount without components need not mention them.  In an object the
components come first, as the first name of all; of several faults the first one is reported. -/
def ofJson (value : Json) : Decoded Amount := do
  let r ← record.unpack value
  let components := r.read? "components" (Json.toList Json.toWord)
  if r.size.isNone then
    let _ ← components
  let currency ← r.read? "currency" Currency.ofJson
  let gross ← r.read? "gross" Json.toWord
  let components ← components
  let currency ← r.require "currency" currency
  let gross ← r.require "gross" gross
  r.close
  Decoded.ofResult (ofMantissas currency gross (components.getD []))

end Amount

end DecimalMoney
