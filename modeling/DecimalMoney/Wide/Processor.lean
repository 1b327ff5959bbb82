/-!
# Processors

Which processors compute with integers of 128 bits at the speed of words.

## Main definitions

* `DecimalMoney.Architecture` : the families of processors that are told apart.
* `DecimalMoney.Processor` : a family and the width of a pointer.
* `DecimalMoney.Processor.supportsAccelerated` : the processor multiplies and divides double words.
-/

namespace DecimalMoney

/-- The families of processors that are told apart. -/
inductive Architecture where
  | x86
  | arm
  | other
  deriving DecidableEq, Repr

namespace Architecture

/-- All families. -/
def all : List Architecture := [x86, arm, other]

/-- The name of the family: the two known families are named in their form of 64 bits. -/
def name : Architecture → String
  | x86 => "x86_64"
  | arm => "aarch64"
  | other => "other"

end Architecture

/-- A processor: its family and the width of its pointers in bits. -/
structure Processor where
  architecture : Architecture
  pointerWidth : Nat
  deriving DecidableEq, Repr

namespace Processor

/-- The processor multiplies and divides double words: a known family, with pointers of 64 bits. -/
def supportsAccelerated (p : Processor) : Bool :=
  p.pointerWidth == 64 && p.architecture != .other

/-- The processor in a report. -/
def describe (p : Processor) : String := s!"CPU: {p.architecture.name} ({p.pointerWidth}-bit)"

/-- A processor of 64 bits from a known family, which is what the library runs on. -/
def wide : Processor := ⟨.x86, 64⟩

theorem supportsAccelerated_iff {p : Processor} :
    p.supportsAccelerated = true ↔ p.pointerWidth = 64 ∧ p.architecture ≠ .other := by
  simp [supportsAccelerated]

end Processor

end DecimalMoney
