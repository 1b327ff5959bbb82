import DecimalMoney.Decimal.Arithmetic
import DecimalMoney.Proofs.Decimal.Rescaling

/-!
# Decimals at a common scale

Decimals are added at the largest of their scales.  This file says what a decimal amounts to there,
in units of the last place, and which scale that is for a list.  At a scale that is not smaller than
its own a decimal keeps its value, so a change to it only checks digits.

## Main definitions

* `DecimalMoney.Decimal.unitsAt` : a decimal in units of the last place of a scale.
* `DecimalMoney.Decimal.greatestScale` : the largest scale of the decimals in a list.

## Main results

* `DecimalMoney.Decimal.cast_unitsAt` : the units are the value.
* `DecimalMoney.Decimal.rescale_eq_checkDigits` : a change to a larger scale checks the units.
* `DecimalMoney.Decimal.eq_of_value_eq` : scale and value determine a decimal.
* `DecimalMoney.Decimal.largestScale_eq_greatestScale` : the scale of a common sum.
-/

namespace DecimalMoney.Decimal

variable {x y : Decimal} {xs ys : List Decimal} {scale : Nat}

/-! ### Values -/

/-- A decimal is determined by its scale and its value. -/
theorem eq_of_value_eq (same : x.scale = y.scale) (h : x.value = y.value) : x = y := by
  obtain ⟨m, s, _⟩ := x
  obtain ⟨n, t, _⟩ := y
  obtain rfl : s = t := same
  obtain rfl : m = n := by
    have hmantissa : (m : ℚ) = n := (div_left_inj' (cast_ten_pow_ne_zero s)).1 h
    exact_mod_cast hmantissa
  rfl

@[simp] theorem value_negate (x : Decimal) : x.negate.value = -x.value := by
  simp [value, negate, neg_div]

/-! ### Units of a scale -/

/-- A decimal in units of the last place of a scale, which is not smaller than its own. -/
def unitsAt (x : Decimal) (scale : Nat) : Int := x.mantissa * 10 ^ (scale - x.scale)

@[simp] theorem unitsAt_self (x : Decimal) : x.unitsAt x.scale = x.mantissa := by
  simp [unitsAt]

@[simp] theorem unitsAt_negate (x : Decimal) (scale : Nat) :
    x.negate.unitsAt scale = -x.unitsAt scale :=
  Int.neg_mul _ _

/-- **The units are the value**, where no place is lost. -/
theorem cast_unitsAt (wider : x.scale ≤ scale) :
    (x.unitsAt scale : ℚ) = x.value * 10 ^ scale :=
  (div_ten_pow_mul_of_ge x.mantissa wider).symm

theorem value_atScale (m : Int) (scale : Scale) : (atScale m scale).value = m / 10 ^ scale.1 := rfl

/-- **A change to a larger scale** computes the units there and checks them. -/
theorem rescale_eq_checkDigits (hx : FitsDigits x.mantissa) (wider : x.scale ≤ scale)
    (hscale : scale ≤ maxScale) (mode : RoundingMode) :
    rescale x.mantissa x.scale scale mode = checkDigits (x.unitsAt scale) := by
  rw [rescale_eq_roundDigits hx x.scale_le hscale, div_ten_pow_mul_of_ge x.mantissa wider,
    RoundingMode.roundDigits_intCast, unitsAt]

/-! ### The largest scale of a list -/

/-- The largest scale of the decimals in a list, zero if there are none. -/
def greatestScale (xs : List Decimal) : Nat := (xs.map Decimal.scale).foldr max 0

@[simp] theorem greatestScale_nil : greatestScale [] = 0 := rfl

@[simp] theorem greatestScale_cons (x : Decimal) (xs : List Decimal) :
    greatestScale (x :: xs) = max x.scale (greatestScale xs) := rfl

@[simp] theorem greatestScale_append (xs ys : List Decimal) :
    greatestScale (xs ++ ys) = max (greatestScale xs) (greatestScale ys) := by
  induction xs with
  | nil => simp
  | cons x xs ih => rw [List.cons_append, greatestScale_cons, greatestScale_cons, ih, max_assoc]

theorem greatestScale_perm (h : xs.Perm ys) : greatestScale xs = greatestScale ys :=
  (h.map Decimal.scale).foldr_eq 0

/-- No scale in the list is larger. -/
theorem scale_le_greatestScale (hx : x ∈ xs) : x.scale ≤ greatestScale xs := by
  induction xs with
  | nil => cases hx
  | cons y xs ih =>
    rw [greatestScale_cons]
    rcases List.mem_cons.1 hx with rfl | hx
    · exact le_max_left _ _
    · exact (ih hx).trans (le_max_right _ _)

/-- A bound of all scales in the list bounds the largest one. -/
theorem greatestScale_le (h : ∀ x ∈ xs, x.scale ≤ scale) : greatestScale xs ≤ scale := by
  induction xs with
  | nil => exact Nat.zero_le _
  | cons x xs ih =>
    obtain ⟨hx, hxs⟩ := List.forall_mem_cons.1 h
    exact max_le hx (ih hxs)

theorem greatestScale_le_maxScale (xs : List Decimal) : greatestScale xs ≤ maxScale :=
  greatestScale_le fun x _ => x.scale_le

/-- The scale of a common sum is the largest scale of its terms. -/
theorem largestScale_eq_greatestScale (xs : List Decimal) :
    (largestScale xs).1 = greatestScale xs := by
  -- The scales are gone through from the left, so any scale may be there to begin with.
  have from_left : ∀ start : Scale,
      (xs.foldl (fun s x => if s.1 ≤ x.scale then x.ownScale else s) start).1 =
        max start.1 (greatestScale xs) := by
    induction xs with
    | nil => exact fun start => (max_eq_left (Nat.zero_le _)).symm
    | cons x xs ih =>
      intro start
      have larger : (if start.1 ≤ x.scale then x.ownScale else start).1 = max start.1 x.scale := by
        split_ifs with smaller
        · exact (max_eq_right smaller).symm
        · exact (max_eq_left (not_le.1 smaller).le).symm
      rw [List.foldl_cons, ih, larger, greatestScale_cons, max_assoc]
  rw [largestScale, from_left]
  exact max_eq_right (Nat.zero_le _)

end DecimalMoney.Decimal
