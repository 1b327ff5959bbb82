import DecimalMoney.Currency.Basic

/-!
# ISO 4217

A table of common currencies with their codes and the digits of their minor units.

## Main definitions

* `DecimalMoney.Iso4217.table` : the entries, in the order of their codes.
* `DecimalMoney.Iso4217.source` : the table as a source of currency data.
* `DecimalMoney.Currency.iso`, `DecimalMoney.Currency.parse` : the currency of a code in the table.
-/

namespace DecimalMoney

namespace Iso4217

/-- An entry of the table. -/
structure Entry where
  /-- The alphabetic code. -/
  code : String
  /-- The numeric code. -/
  numeric : Nat
  /-- The number of digits of the minor unit. -/
  decimals : Nat
  deriving DecidableEq, Repr

/-- The entries, in the order of their codes. -/
def table : List Entry := [
  ⟨"AED", 784, 2⟩,
  ⟨"AUD", 36, 2⟩,
  ⟨"BHD", 48, 3⟩,
  ⟨"BRL", 986, 2⟩,
  ⟨"CAD", 124, 2⟩,
  ⟨"CHF", 756, 2⟩,
  ⟨"CLF", 990, 4⟩,
  ⟨"CLP", 152, 0⟩,
  ⟨"CNY", 156, 2⟩,
  ⟨"CZK", 203, 2⟩,
  ⟨"DKK", 208, 2⟩,
  ⟨"EUR", 978, 2⟩,
  ⟨"GBP", 826, 2⟩,
  ⟨"HKD", 344, 2⟩,
  ⟨"HUF", 348, 2⟩,
  ⟨"IDR", 360, 2⟩,
  ⟨"ILS", 376, 2⟩,
  ⟨"INR", 356, 2⟩,
  ⟨"ISK", 352, 0⟩,
  ⟨"JOD", 400, 3⟩,
  ⟨"JPY", 392, 0⟩,
  ⟨"KRW", 410, 0⟩,
  ⟨"KWD", 414, 3⟩,
  ⟨"MXN", 484, 2⟩,
  ⟨"NOK", 578, 2⟩,
  ⟨"NZD", 554, 2⟩,
  ⟨"OMR", 512, 3⟩,
  ⟨"PLN", 985, 2⟩,
  ⟨"RUB", 643, 2⟩,
  ⟨"SAR", 682, 2⟩,
  ⟨"SEK", 752, 2⟩,
  ⟨"SGD", 702, 2⟩,
  ⟨"THB", 764, 2⟩,
  ⟨"TND", 788, 3⟩,
  ⟨"TRY", 949, 2⟩,
  ⟨"USD", 840, 2⟩,
  ⟨"UYW", 927, 4⟩,
  ⟨"VND", 704, 0⟩,
  ⟨"XAU", 959, 0⟩,
  ⟨"ZAR", 710, 2⟩]

/-- The entry of a code. -/
def find? (code : String) : Option Entry := table.find? (·.code == code)

/-- The table as a source of currency data. -/
def source : CurrencySource where
  decimals code := (find? code).map Entry.decimals
  numericCode code := (find? code).map Entry.numeric

/-- Every entry is that of a currency. -/
theorem isCurrency_of_mem_table :
    ∀ entry ∈ table, IsCurrencyCode entry.code ∧ entry.decimals ≤ maxCurrencyDecimals := by
  decide +kernel

end Iso4217

namespace Currency

/-- The currency of a code in the table of ISO 4217. -/
def iso (code : String) : Except Failure Currency := lookup code Iso4217.source

/-- The currency that a text names; blanks around the code do not matter. -/
def parse (text : String) : Except Failure Currency :=
  iso (String.ofList (Text.trim text.toList))

end Currency

end DecimalMoney
