import DecimalMoney.Power

/-!
# Decimal digits

Natural numbers as lists of decimal digits, most significant digit first.

## Main definitions

* `DecimalMoney.Numeral.digits` : the digits of a number, without leading zeros.
* `DecimalMoney.Numeral.padded` : the digits of a number, filled up with zeros to a width.
* `DecimalMoney.Numeral.valueOf` : the number that a list of digits stands for.

## Main results

* `DecimalMoney.Numeral.valueOf_digits`, `DecimalMoney.Numeral.valueOf_padded` : reading undoes
  writing.
* `DecimalMoney.Numeral.length_padded` : a number below `10 ^ width` is padded to the width.
-/

namespace DecimalMoney.Numeral

/-- The character of a digit below ten. -/
def digitChar (d : Nat) : Char := Char.ofNat (48 + d)

/-- The digit that a character stands for. -/
def digitValue (c : Char) : Nat := c.toNat - 48

theorem digitValue_digitChar : {d : Nat} → d < 10 → digitValue (digitChar d) = d := by
  decide

theorem isDigit_digitChar : {d : Nat} → d < 10 → (digitChar d).isDigit = true := by
  decide

/-- The decimal digits of a number. -/
def digits (n : Nat) : List Char :=
  if n < 10 then [digitChar n] else digits (n / 10) ++ [digitChar (n % 10)]
termination_by n
decreasing_by omega

/-- The number that a list of digits stands for; zero for the empty list. -/
def valueOf (ds : List Char) : Nat := ds.foldl (fun n c => n * 10 + digitValue c) 0

/-- The digits of a number with as many zeros in front as the width asks for. -/
def padded (width n : Nat) : List Char :=
  List.replicate (width - (digits n).length) '0' ++ digits n

@[simp] theorem valueOf_nil : valueOf [] = 0 := rfl

theorem valueOf_append_singleton (ds : List Char) (c : Char) :
    valueOf (ds ++ [c]) = valueOf ds * 10 + digitValue c := by
  simp [valueOf]

theorem valueOf_digits (n : Nat) : valueOf (digits n) = n := by
  rw [digits]
  split
  · simp [valueOf, digitValue_digitChar, *]
  · rw [valueOf_append_singleton, valueOf_digits (n / 10), digitValue_digitChar (by omega)]
    omega
termination_by n
decreasing_by omega

theorem isDigit_of_mem_digits (n : Nat) : ∀ c ∈ digits n, c.isDigit = true := by
  rw [digits]
  split
  · simpa using isDigit_digitChar (by assumption)
  · intro c hc
    rcases List.mem_append.1 hc with hc | hc
    · exact isDigit_of_mem_digits (n / 10) c hc
    · rw [List.mem_singleton.1 hc]
      exact isDigit_digitChar (by omega)
termination_by n
decreasing_by omega

theorem digits_ne_nil (n : Nat) : digits n ≠ [] := by
  rw [digits]
  split <;> simp

/-- A number below `10 ^ (k + 1)` has at most `k + 1` digits. -/
theorem length_digits_le : (k : Nat) → {n : Nat} → n < 10 ^ (k + 1) → (digits n).length ≤ k + 1
  | 0, n, h => by
      rw [digits, if_pos (by simpa using h)]
      simp
  | k + 1, n, h => by
      rw [digits]
      split
      · simp
      · have := length_digits_le k (n := n / 10) (by rw [Nat.pow_succ] at h; omega)
        rw [List.length_append, List.length_singleton]
        omega

/-- Leading zeros do not change the number. -/
theorem valueOf_replicate_zero_append (k : Nat) (ds : List Char) :
    valueOf (List.replicate k '0' ++ ds) = valueOf ds := by
  induction k with
  | zero => rfl
  | succ k ih => simpa [valueOf, List.replicate_succ, digitValue] using ih

theorem valueOf_padded (width n : Nat) : valueOf (padded width n) = n := by
  rw [padded, valueOf_replicate_zero_append, valueOf_digits]

theorem isDigit_of_mem_padded {width n : Nat} : ∀ c ∈ padded width n, c.isDigit = true := by
  intro c hc
  rcases List.mem_append.1 hc with hc | hc
  · rw [(List.mem_replicate.1 hc).2]
    decide
  · exact isDigit_of_mem_digits n c hc

theorem length_padded {width n : Nat} (positive : 0 < width) (h : n < 10 ^ width) :
    (padded width n).length = width := by
  obtain ⟨k, rfl⟩ : ∃ k, width = k + 1 := ⟨width - 1, by omega⟩
  have := length_digits_le k h
  simp only [padded, List.length_append, List.length_replicate]
  omega

end DecimalMoney.Numeral
