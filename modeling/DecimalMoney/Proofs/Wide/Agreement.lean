import DecimalMoney.Proofs.Wide.LongDivision
import DecimalMoney.Proofs.Wide.Product
import DecimalMoney.Wide.ProductQuotient

/-!
# Agreement of the backends

Both backends compute the same quotient and remainder of `a * b / d`, and they do so exactly: an
answer is the quotient and the remainder of the product as natural numbers, and there is no answer
only where the quotient does not fit a word.  What is computed on top of a backend therefore does
not depend on the backend.

## Main results

* `DecimalMoney.Wide.portable_eq_accelerated` : the backends are one function.
* `DecimalMoney.Wide.backends_exact_and_interchangeable` : they are exact, nothing wraps around in
  the products of the portable one, and rounded quotients are the same on both.
-/

namespace DecimalMoney

namespace Wide

/-! ### The accelerated backend -/

private theorem toNat_pos {d : UInt64} (hd : d ≠ 0) : 0 < d.toNat :=
  UInt64.pos_iff_ne_zero.2 hd

/-- Quotient and remainder as words are what the accelerated backend answers. -/
theorem accelerated_eq_some {a b d q r : UInt64} (hq : q.toNat = a.toNat * b.toNat / d.toNat)
    (hr : r.toNat = a.toNat * b.toNat % d.toNat) : accelerated a b d = some (q, r) := by
  have fits : a.toNat * b.toNat / d.toNat < UInt64.size := hq ▸ q.toNat_lt_size
  simp only [accelerated, if_pos fits]
  rw [← hq, ← hr, UInt64.ofNat_toNat, UInt64.ofNat_toNat]

/-- There is no answer if the quotient does not fit a word. -/
theorem accelerated_eq_none {a b d : UInt64}
    (h : UInt64.size ≤ a.toNat * b.toNat / d.toNat) : accelerated a b d = none := by
  simp only [accelerated, Nat.not_lt.2 h, if_false]

/-- The accelerated backend has an answer if the quotient fits a word. -/
theorem exists_accelerated_eq_some {a b d : UInt64} (hd : d ≠ 0)
    (h : a.toNat * b.toNat / d.toNat < UInt64.size) :
    ∃ q r, accelerated a b d = some (q, r) ∧ q.toNat = a.toNat * b.toNat / d.toNat ∧
      r.toNat = a.toNat * b.toNat % d.toNat := by
  have hr : a.toNat * b.toNat % d.toNat < UInt64.size :=
    (Nat.mod_lt _ (toNat_pos hd)).trans d.toNat_lt_size
  have hq' := UInt64.toNat_ofNat_of_lt' h
  have hr' := UInt64.toNat_ofNat_of_lt' hr
  exact ⟨_, _, accelerated_eq_some hq' hr', hq', hr'⟩

/-! ### The portable backend -/

/-- A product in one word is divided as a word. -/
theorem accelerated_eq_of_toNat_mul {a b d p : UInt64} (h : p.toNat = a.toNat * b.toNat) :
    accelerated a b d = some (p / d, p % d) :=
  accelerated_eq_some (by rw [UInt64.toNat_div, h]) (by rw [UInt64.toNat_mod, h])

/-- **The backends are one function.** The narrow path, the product of one word, the overflow and
the long division all answer what the division of the whole product answers. -/
theorem portable_eq_accelerated (a b : UInt64) {d : UInt64} (hd : d ≠ 0) :
    portable a b d = accelerated a b d := by
  have hproduct := toNat_mulWide a b
  rw [portable]
  by_cases narrow : a < narrowBound ∧ b < narrowBound
  · rw [if_pos narrow]
    exact (accelerated_eq_of_toNat_mul (toNat_mul_of_lt_narrowBound narrow.1 narrow.2)).symm
  rw [if_neg narrow]
  by_cases single : (mulWide a b).high = 0
  · have hlow : (mulWide a b).low.toNat = a.toNat * b.toNat := by
      rw [← hproduct, DoubleWord.toNat, single, UInt64.toNat_zero, Nat.zero_mul, Nat.zero_add]
    simp only [single, if_true]
    exact (accelerated_eq_of_toNat_mul hlow).symm
  by_cases large : d ≤ (mulWide a b).high
  · have hquotient : UInt64.size ≤ a.toNat * b.toNat / d.toNat := by
      rw [Nat.le_div_iff_mul_le (toNat_pos hd), ← hproduct, Nat.mul_comm]
      exact (Nat.mul_le_mul_right _ (UInt64.le_iff_toNat_le.1 large)).trans (Nat.le_add_right _ _)
    simp only [single, large, if_true, if_false]
    exact (accelerated_eq_none hquotient).symm
  · have small : (mulWide a b).high < d := UInt64.not_le.1 large
    obtain ⟨hq, hr⟩ := toNat_divideWide small
    rw [hproduct] at hq hr
    simp only [single, large, if_false]
    exact (accelerated_eq_some hq hr).symm

end Wide

/-! ### Rounded quotients -/

/-- The magnitude of a divisor is not zero. -/
theorem magnitudeWord_ne_zero {d : Int} (fits : FitsWord d) (nonzero : d ≠ 0) :
    magnitudeWord d ≠ 0 := by
  intro h
  have zero := toNat_magnitudeWord fits
  rw [h, UInt64.toNat_zero] at zero
  exact nonzero (Int.natAbs_eq_zero.1 zero.symm)

/-- What a backend answers does not depend on the backend. -/
theorem Backend.productDivision_eq (backend : Backend) (a b : UInt64) {d : UInt64} (hd : d ≠ 0) :
    backend.productDivision a b d = Wide.accelerated a b d := by
  cases backend with
  | accelerated => rfl
  | portable => exact Wide.portable_eq_accelerated a b hd

/-- A rounded quotient does not depend on the backend. -/
theorem divideProductOn_eq_accelerated (backend : Backend) (a b : Int) {d : Int} (fits : FitsWord d)
    (mode : RoundingMode) :
    divideProductOn backend a b d mode = divideProductOn .accelerated a b d mode := by
  by_cases nonzero : d = 0
  · subst nonzero
    rw [divideProductOn_zero_divisor, divideProductOn_zero_divisor]
  · have hd := magnitudeWord_ne_zero fits nonzero
    simp only [divideProductOn, TruncatedQuotient.ofProduct, Backend.productDivision_eq _ _ _ hd]

namespace Wide

/-- **Exact and interchangeable backends.** For a divisor other than zero both backends give the
same answer: quotient and remainder of the product as natural numbers if the quotient fits a word,
nothing otherwise.  In the products of the portable backend nothing leaves a word on the way.
Rounded quotients of words are the same on both. -/
theorem backends_exact_and_interchangeable :
    (∀ a b d : UInt64, d ≠ 0 →
      portable a b d = accelerated a b d ∧
      (a.toNat * b.toNat / d.toNat < UInt64.size →
        ∃ q r, portable a b d = some (q, r) ∧
          a.toNat * b.toNat = q.toNat * d.toNat + r.toNat ∧ r < d) ∧
      (UInt64.size ≤ a.toNat * b.toNat / d.toNat → portable a b d = none)) ∧
    (∀ a b : UInt64, ProductFits a b) ∧
    ∀ (a b d : Int) (mode : RoundingMode), FitsWord a → FitsWord b → FitsWord d →
      divideProductOn .portable a b d mode = divideProductOn .accelerated a b d mode := by
  refine ⟨fun a b d hd => ?_, productFits, fun a b d mode _ _ fits =>
    divideProductOn_eq_accelerated .portable a b fits mode⟩
  rw [portable_eq_accelerated a b hd]
  refine ⟨rfl, fun small => ?_, accelerated_eq_none⟩
  obtain ⟨q, r, hsome, hq, hr⟩ := exists_accelerated_eq_some hd small
  refine ⟨q, r, hsome, ?_, ?_⟩
  · rw [hq, hr, Nat.div_add_mod']
  · rw [UInt64.lt_iff_toNat_lt, hr]
    exact Nat.mod_lt _ (toNat_pos hd)

/-- A divisor with its top bit set, and the least word as a factor. -/
theorem backends_exact_and_interchangeable_at_extremes :
    (0xFFFFFFFFFFFFFFFF : UInt64) ≠ 0 ∧
    portable 0xFFFFFFFFFFFFFFFF 0xFFFFFFFFFFFFFFFE 0xFFFFFFFFFFFFFFFF =
      accelerated 0xFFFFFFFFFFFFFFFF 0xFFFFFFFFFFFFFFFE 0xFFFFFFFFFFFFFFFF ∧
    FitsWord (-0x8000000000000000) ∧ FitsWord 3 ∧ FitsWord (-7) ∧
    divideProductOn .portable (-0x8000000000000000) 3 (-7) .halfEven =
      divideProductOn .accelerated (-0x8000000000000000) 3 (-7) .halfEven :=
  ⟨by decide, (backends_exact_and_interchangeable.1 _ _ _ (by decide)).1, by decide, by decide,
    by decide,
    backends_exact_and_interchangeable.2.2 _ _ _ _ (by decide) (by decide) (by decide)⟩

end Wide

end DecimalMoney
