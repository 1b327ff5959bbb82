import DecimalMoney.Amount.Balance
import DecimalMoney.Amount.Scaling
import DecimalMoney.Proofs.Apportionment.Totals

/-!
# Multiples of amounts

There are two ways to multiply an amount.  By an integer every number is multiplied on its own; by a
ratio a gross value alone is rounded, and one with components is apportioned.  A conversion takes
the first way where the units of the target are fine enough for the rate, and else the second.  A
change of sign is done without a check, number by number.

## Main results

* `DecimalMoney.Amount.negate_eq` : a change of sign yields the opposite amount, or overruns.
* `DecimalMoney.Amount.eq_of_multiplyInt`, `DecimalMoney.Amount.scaleTo_cases` : what a multiple of
  an amount is.
* `DecimalMoney.Amount.convert_of_finer`, `DecimalMoney.Amount.convert_of_coarser` : the two ways of
  a conversion.
-/

namespace DecimalMoney.Amount

variable {a b : Amount}

/-! ### Changes of sign -/

/-- **A change of sign yields the opposite amount**, unless one of its numbers is no word. -/
theorem negate_eq (a : Amount) : a.negate =
    if FitsWord (-a.gross) ∧ ∀ c ∈ a.components, FitsWord (-c) then .ok a.opposite
    else .error .overrun := by
  rw [negate, mapM_trapWord]
  by_cases gross : FitsWord (-a.gross)
  · rw [trapWord_of_fitsWord gross, ok_bind, if_congr (and_iff_right gross) rfl rfl]
    split_ifs <;> rfl
  · rw [trapWord_of_not_fitsWord gross]
    exact (if_neg fun words => gross words.1).symm

theorem negate_eq_ok_iff : a.negate = .ok b ↔
    (FitsWord (-a.gross) ∧ ∀ c ∈ a.components, FitsWord (-c)) ∧ b = a.opposite := by
  rw [negate_eq]
  split_ifs with words
  · rw [and_iff_right words, Except.ok.injEq, eq_comm]
  · exact iff_of_false nofun fun h => words h.1

/-- Numbers of at most eighteen digits have opposites. -/
theorem negate_of_fitsDigits (hgross : FitsDigits a.gross)
    (hcomponents : ∀ c ∈ a.components, FitsDigits c) : a.negate = .ok a.opposite :=
  negate_eq_ok_iff.2 ⟨⟨hgross.neg.fitsWord, fun c hc => (hcomponents c hc).neg.fitsWord⟩, rfl⟩

/-! ### Multiples by an integer and by a ratio -/

/-- An amount times an integer, number by number. -/
theorem eq_of_multiplyInt {factor : Int} (h : a.multiplyInt factor = .ok b) :
    b = { a with gross := a.gross * factor, components := a.components.map (· * factor) } := by
  unfold Amount.multiplyInt at h
  split_ifs at h with one
  · cases h
    simp [one]
  · obtain ⟨components, hcomponents, h⟩ := bind_eq_ok_iff.1 h
    obtain ⟨gross, hgross, h⟩ := bind_eq_ok_iff.1 h
    cases h
    rw [(checkDigits_eq_ok_iff.1 hgross).2, (eq_map_mul_of_mapM hcomponents).1]

/-- **The two ways of scaling.** A gross value alone is rounded and checked; with its components it
is apportioned. -/
theorem scaleTo_cases {currency : Currency} {numerator denominator : Int} {mode : RoundingMode}
    (h : a.scaleTo currency numerator denominator mode = .ok b) :
    b.currency = currency ∧
      ((a.components = [] ∧ b.components = [] ∧ FitsDigits b.gross ∧
          divideProduct a.gross numerator denominator mode = .ok b.gross) ∨
        (a.components ≠ [] ∧ apportion (a.gross :: a.components) numerator denominator mode =
          .ok (b.gross :: b.components))) := by
  unfold scaleTo at h
  split_ifs at h with bare
  · obtain ⟨_, hquotient, h⟩ := bind_eq_ok_iff.1 h
    obtain ⟨_, hchecked, h⟩ := bind_eq_ok_iff.1 h
    cases h
    obtain ⟨hdigits, rfl⟩ := checkDigits_eq_ok_iff.1 hchecked
    exact ⟨rfl, .inl ⟨bare, rfl, hdigits, hquotient⟩⟩
  · obtain ⟨scaled, hscaled, h⟩ := bind_eq_ok_iff.1 h
    cases h
    obtain ⟨gross, components, rfl⟩ :=
      List.exists_cons_of_length_eq_add_one (length_of_apportion hscaled)
    exact ⟨rfl, .inr ⟨bare, hscaled⟩⟩

/-! ### The two ways of a conversion -/

section Conversion

variable {rate : Decimal} {target : Currency}

/-- To finer units an amount is multiplied by an integer. -/
theorem convert_of_finer (finer : rate.scale + a.currency.decimals ≤ target.decimals) :
    a.convert rate target = (do
      let factor ← checkWord
        (rate.mantissa * 10 ^ (target.decimals - (rate.scale + a.currency.decimals)))
      return { ← a.multiplyInt factor with currency := target }) := by
  have shift : -(((rate.scale + a.currency.decimals : Nat) : Int) - target.decimals) =
      ((target.decimals - (rate.scale + a.currency.decimals) : Nat) : Int) := by omega
  have named : target.decimals - (rate.scale + a.currency.decimals) ≤ maxScale :=
    (Nat.sub_le _ _).trans target.scale.2
  rw [convert, if_neg (by omega), shift, powerOfTen_natCast named, ok_bind]

/-- To coarser units it is multiplied by a ratio, as long as the denominator is a power of ten that
a scale can name. -/
theorem convert_of_coarser (coarser : target.decimals < rate.scale + a.currency.decimals) :
    a.convert rate target =
      if rate.scale + a.currency.decimals - target.decimals ≤ maxScale then
        a.scaleTo target rate.mantissa
          (10 ^ (rate.scale + a.currency.decimals - target.decimals)) .halfEven
      else .error .overflow := by
  have shift : ((rate.scale + a.currency.decimals : Nat) : Int) - target.decimals =
      ((rate.scale + a.currency.decimals - target.decimals : Nat) : Int) := by omega
  rw [convert, if_pos (by omega), shift]
  split_ifs with named
  · rw [powerOfTen_natCast named, ok_bind]
  · rw [powerOfTen, if_neg (by omega)]
    rfl

end Conversion

end DecimalMoney.Amount
