import DecimalMoney.Amount.Basic
import Mathlib

/-!
# Balanced amounts

An amount is balanced if its components, where it has any, add up to its gross value as integers.

## Main definitions

* `DecimalMoney.Amount.Balanced` : the components, if any, add up to the gross value.
* `DecimalMoney.Amount.opposite` : the amount of opposite sign, as integers.

## Main results

* `DecimalMoney.Amount.balanced_cleared`, `DecimalMoney.Amount.Balanced.opposite` : zero and the
  opposite of a balanced amount are balanced.
-/

namespace DecimalMoney.Amount

/-- The components of an amount with a breakdown add up to its gross value. -/
def Balanced (a : Amount) : Prop := a.components ≠ [] → a.components.sum = a.gross

/-- An amount without a breakdown is balanced. -/
theorem balanced_of_components_eq_nil {a : Amount} (h : a.components = []) : a.Balanced :=
  fun nonempty => absurd h nonempty

theorem balanced_cleared (a : Amount) : a.cleared.Balanced := by
  intro _
  simp [cleared]

/-- The amount of opposite sign, whether its numbers are words or not. -/
def opposite (a : Amount) : Amount :=
  { a with gross := -a.gross, components := a.components.map fun c => -c }

/-- The opposite of a balanced amount is balanced. -/
theorem Balanced.opposite {a : Amount} (h : a.Balanced) : a.opposite.Balanced := by
  intro nonempty
  have hne : a.components ≠ [] := by simpa [Amount.opposite] using nonempty
  simp only [Amount.opposite, ← h hne]
  exact (List.sum_neg a.components).symm

end DecimalMoney.Amount
