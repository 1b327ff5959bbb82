import DecimalMoney.Json.Decoding
import DecimalMoney.Settings

/-!
# Structured data of rounding modes and settings

## Main definitions

* `DecimalMoney.RoundingMode.toJson`, `DecimalMoney.RoundingMode.ofJson` : a mode by its name.
* `DecimalMoney.Preference.toJson`, `DecimalMoney.Preference.ofJson` : a preference by its name.
* `DecimalMoney.Settings.toJson`, `DecimalMoney.Settings.ofJson` : settings as a record.

## Main results

* `DecimalMoney.RoundingMode.ofJson_toJson`, `DecimalMoney.Preference.ofJson_toJson`,
  `DecimalMoney.Settings.ofJson_toJson` : reading undoes writing.
-/

namespace DecimalMoney

/-- A rounding mode in structured data. -/
def RoundingMode.toJson (mode : RoundingMode) : Json := .string mode.variant

/-- The rounding mode that a value names. -/
def RoundingMode.ofJson : Json → Decoded RoundingMode := Json.toChoice all variant

theorem RoundingMode.ofJson_toJson (mode : RoundingMode) : ofJson mode.toJson = .ok mode := by
  cases mode <;> rfl

/-- A preference in structured data. -/
def Preference.toJson (p : Preference) : Json := .string p.name

/-- The preference that a value names; second names are for text only. -/
def Preference.ofJson : Json → Decoded Preference := Json.toChoice all name

theorem Preference.ofJson_toJson (p : Preference) : ofJson p.toJson = .ok p := by
  cases p <;> rfl

namespace Settings

/-- The record of settings. -/
def record : Record := ⟨"ArithmeticConfig", ["backend", "probe_on_install"]⟩

/-- Settings in structured data. -/
def toJson (s : Settings) : Json :=
  .object [("backend", s.preference.toJson), ("probe_on_install", .boolean s.probe)]

/-- The settings in a value. -/
def ofJson (value : Json) : Decoded Settings := do
  let r ← record.unpack value
  let preference ← r.read? "backend" Preference.ofJson
  let probe ← r.read? "probe_on_install" Json.toBoolean
  let settings : Settings :=
    { preference := ← r.require "backend" preference
      probe := ← r.require "probe_on_install" probe }
  r.close
  return settings

theorem ofJson_toJson (s : Settings) : ofJson s.toJson = .ok s := by
  obtain ⟨preference, probe⟩ := s
  cases preference <;> rfl

end Settings

end DecimalMoney
