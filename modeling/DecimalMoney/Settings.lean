import DecimalMoney.Text.Blank
import DecimalMoney.Wide.Probe
import DecimalMoney.Wide.Processor

/-!
# Settings

The settings say which backend a process should use and whether it is probed first.  They are
chosen by hand or read from two variables of the environment.

## Main definitions

* `DecimalMoney.Preference` : the backend that is asked for.
* `DecimalMoney.Settings` : the preference, and whether to probe.
* `DecimalMoney.Settings.ofVariables` : the settings that two variables describe.
* `DecimalMoney.Settings.select` : the backend that the settings lead to on a processor.
* `DecimalMoney.Settings.validate` : the processor can do what is asked for.

## Main results

* `DecimalMoney.Preference.ofText_name` : every preference is read back from its name.
* `DecimalMoney.Settings.select_of_not_supportsAccelerated` : without support, the portable backend.
-/

namespace DecimalMoney

/-! ### Faults -/

/-- What is wrong with settings. -/
inductive SettingsFault where
  /-- No preference has this name, which is given without blanks at its ends and in lower case. -/
  | unknownPreference (name : String)
  /-- The text of the variable that turns the probe on or off is not a flag. -/
  | malformedFlag (text : String)
  /-- The accelerated backend is asked for and the processor does not support it. -/
  | unsupported (processor : Processor)
  deriving DecidableEq, Repr

/-! ### Preferences -/

/-- The backend that is asked for. -/
inductive Preference where
  /-- The accelerated backend where it is supported, otherwise the portable one. -/
  | auto
  | accelerated
  | portable
  deriving DecidableEq, Repr, Inhabited

namespace Preference

/-- All preferences. -/
def all : List Preference := [auto, accelerated, portable]

/-- The name of the preference. -/
def name : Preference → String
  | auto => "auto"
  | accelerated => "accelerated"
  | portable => "portable"

/-- The name of the preference in a description of settings. -/
def variant : Preference → String
  | auto => "Auto"
  | accelerated => "Accelerated"
  | portable => "Portable"

/-- The preference of this name.  No name at all leaves the choice open, and two preferences have a
second name.  Blanks at the ends do not matter, nor does the case of ASCII letters. -/
def ofText (text : String) : Except SettingsFault Preference :=
  match String.ofList (Text.fold (Text.trim text.toList)) with
  | "auto" | "" => .ok auto
  | "accelerated" | "native" => .ok accelerated
  | "portable" | "fallback" => .ok portable
  | unknown => .error (.unknownPreference unknown)

/-- Every preference is read back from its name. -/
theorem ofText_name (p : Preference) : ofText p.name = .ok p := by
  cases p <;> rfl

end Preference

/-! ### Settings -/

/-- The settings of a process. -/
structure Settings where
  /-- The backend that is asked for. -/
  preference : Preference := .auto
  /-- The accelerated backend is compared with the portable one before it is used. -/
  probe : Bool := true
  deriving DecidableEq, Repr, Inhabited

/-- The variable that holds the preference. -/
def preferenceVariable : String := "FIXEDPOINT_BACKEND"

/-- The variable that turns the probe on or off. -/
def probeVariable : String := "FIXEDPOINT_PROBE"

/-- The sentence that reports a fault. -/
def SettingsFault.message : SettingsFault → String
  | unknownPreference name => s!"unknown backend preference '{name}'"
  | malformedFlag text => s!"{probeVariable} must be 0, 1, true or false, got '{text}'"
  | unsupported processor =>
    s!"accelerated backend requested but not supported on {processor.describe}"

namespace Settings

/-- The truth value that a text stands for, whatever the case of its ASCII letters and the blanks
at its ends. -/
def readFlag? (text : String) : Option Bool :=
  match String.ofList (Text.fold (Text.trim text.toList)) with
  | "1" | "true" | "yes" | "on" => some true
  | "0" | "false" | "no" | "off" => some false
  | _ => none

/-- The settings that the variables describe; a variable without a value leaves the default.  The
preference is read first. -/
def ofVariables (valueOf : String → Option String) : Except SettingsFault Settings := do
  let preference ← match valueOf preferenceVariable with
    | none => .ok .auto
    | some text => Preference.ofText text
  let probe ← match valueOf probeVariable with
    | none => .ok true
    | some text =>
      match readFlag? text with
      | some flag => .ok flag
      | none => .error (.malformedFlag text)
  return ⟨preference, probe⟩

/-- The accelerated backend is wanted and supported. -/
def wantsAccelerated (s : Settings) (p : Processor) : Bool :=
  s.preference != .portable && p.supportsAccelerated

/-- The backend that the settings lead to.  If a probe is asked for, an accelerated backend that
does not agree with the portable one is not used. -/
def select (s : Settings) (p : Processor) : Backend :=
  if s.wantsAccelerated p && !(s.probe && (Wide.probe Wide.accelerated Wide.portable).isSome) then
    .accelerated
  else .portable

/-- The processor can do what is asked for. -/
def validate (s : Settings) (p : Processor) : Except SettingsFault Unit :=
  if s.preference = .accelerated ∧ p.supportsAccelerated = false then .error (.unsupported p)
  else .ok ()

/-- The settings with the names of their fields. -/
def describe (s : Settings) : String :=
  "ArithmeticConfig \x7b backend: " ++ s.preference.variant ++ ", probe_on_install: " ++
    toString s.probe ++ " \x7d"

/-- Without variables the settings are the default. -/
theorem ofVariables_none : ofVariables (fun _ => none) = .ok {} := rfl

/-- Without support the portable backend is used. -/
theorem select_of_not_supportsAccelerated (s : Settings) {p : Processor}
    (h : p.supportsAccelerated = false) : s.select p = .portable := by
  simp [select, wantsAccelerated, h]

/-- Where the processor supports the accelerated backend, all settings are valid. -/
theorem validate_of_supportsAccelerated (s : Settings) {p : Processor}
    (h : p.supportsAccelerated = true) : s.validate p = .ok () := by
  simp [validate, h]

end Settings

end DecimalMoney
