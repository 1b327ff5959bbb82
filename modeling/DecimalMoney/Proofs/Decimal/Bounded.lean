import DecimalMoney.Decimal.Format
import DecimalMoney.Proofs.Decimal.Comparison

/-!
# Bounded decimals

The mantissa of a decimal has at most eighteen digits, except that one and minus one are there at
scale eighteen too, with nineteen.  Most operations check their result; the others return an
operand, or a number of its scale that is no larger.  Either way the bound is kept, and the
exception does not spread: at any other scale it takes a rounded quotient, which is small.

## Main definitions

* `DecimalMoney.Decimal.Bounded` : eighteen digits, with the exception.
* `DecimalMoney.Decimal.BoundedBy` : what an operation may make of an operand without its bound
  being lost.
* `DecimalMoney.Decimal.Keeps` : an operation that makes nothing else.
* `DecimalMoney.Decimal.StepsFit` : the steps on one decimal that are not checked.
* `DecimalMoney.Format.Contains` : the values of a format.

## Main results

* `DecimalMoney.Decimal.boundedBy_of_add`, `DecimalMoney.Decimal.keeps_multiply`,
  `DecimalMoney.Decimal.keeps_divide` and others : operations that keep the scale of an operand.
* `DecimalMoney.Decimal.bounded_of_withScale` : changes of scale.
* `DecimalMoney.Decimal.Bounded.stepsFit`, `DecimalMoney.Decimal.Bounded.hasOpposite` : nothing
  that is not checked overflows.
-/

namespace DecimalMoney

namespace Decimal

variable {x y z : Decimal} {m : Int} {mode : RoundingMode}

/-- The mantissa has at most eighteen digits, or the decimal is one or minus one at scale
eighteen. -/
def Bounded (x : Decimal) : Prop :=
  FitsDigits x.mantissa ∨
    (x.scale = maxScale ∧ (x.mantissa = 10 ^ maxScale ∨ x.mantissa = -10 ^ maxScale))

/-- A decimal of the scale of `x` whose mantissa is no larger or has at most eighteen digits. -/
structure BoundedBy (z x : Decimal) : Prop where
  scale_eq : z.scale = x.scale
  mantissa_le : z.mantissa.natAbs ≤ x.mantissa.natAbs ∨ FitsDigits z.mantissa

/-! ### The bound -/

theorem Bounded.natAbs_le (h : x.Bounded) : x.mantissa.natAbs ≤ 10 ^ maxScale := by
  unfold Bounded FitsDigits maxMantissa maxScale at *
  omega

theorem Bounded.fitsWord (h : x.Bounded) : FitsWord x.mantissa := by
  have := h.natAbs_le
  unfold maxScale at this
  unfold FitsWord
  omega

/-- Below scale eighteen there is no exception. -/
theorem Bounded.fitsDigits (h : x.Bounded) (below : x.scale < maxScale) : FitsDigits x.mantissa :=
  h.resolve_right fun exception => below.ne exception.1

/-- An operation keeps the bound of its operand. -/
theorem Bounded.of_boundedBy (hx : x.Bounded) (h : z.BoundedBy x) : z.Bounded := by
  rcases h.mantissa_le with hle | hdigits
  · rcases hx with hdigits | ⟨hscale, hone⟩
    · exact .inl (hdigits.of_natAbs_le hle)
    · rw [← h.scale_eq] at hscale
      unfold Bounded FitsDigits maxMantissa maxScale at *
      omega
  · exact .inl hdigits

/-- One has at most eighteen digits below scale eighteen. -/
theorem bounded_one (scale : Scale) : (one scale).Bounded := by
  rcases Nat.lt_or_eq_of_le scale.2 with less | eq
  · have hle : 10 ^ scale.1 ≤ 10 ^ 17 := Nat.pow_le_pow_right (by decide) (Nat.le_of_lt_succ less)
    have hcast : ((10 ^ scale.1 : Nat) : Int) = 10 ^ scale.1 := by push_cast; rfl
    have hpos := ten_pow_pos scale.1
    refine .inl ?_
    unfold one atScale FitsDigits maxMantissa maxScale
    dsimp only
    omega
  · exact .inr ⟨eq, .inl (congrArg (fun n : Nat => (10 : Int) ^ n) eq)⟩

/-! ### Operations that keep a scale -/

theorem BoundedBy.refl (x : Decimal) : x.BoundedBy x := ⟨rfl, .inl le_rfl⟩

theorem boundedBy_setMantissa (hle : m.natAbs ≤ x.mantissa.natAbs) :
    (x.setMantissa m).BoundedBy x :=
  ⟨rfl, .inl hle⟩

theorem boundedBy_zero (x : Decimal) : (zero x.ownScale).BoundedBy x := ⟨rfl, .inr fitsDigits_zero⟩

theorem boundedBy_negate (x : Decimal) : x.negate.BoundedBy x :=
  boundedBy_setMantissa (Int.natAbs_neg _).le

theorem boundedBy_abs (x : Decimal) : x.abs.BoundedBy x := by
  unfold abs
  split_ifs
  · exact boundedBy_negate x
  · exact .refl x

/-- Where there is a result, it is bounded by the decimal. -/
def Keeps (x : Decimal) (result : Except Failure Decimal) : Prop :=
  ∀ z, result = .ok z → z.BoundedBy x

namespace Keeps

theorem ok (h : z.BoundedBy x) : x.Keeps (.ok z) := by
  rintro _ ⟨⟩
  exact h

theorem error (failure : Failure) : x.Keeps (.error failure) := nofun

/-- Only the last step matters. -/
theorem bind {α : Type} {first : Except Failure α} {next : α → Except Failure Decimal}
    (h : ∀ a, x.Keeps (next a)) : x.Keeps (first >>= next) := by
  intro z hz
  obtain ⟨a, _, ha⟩ := bind_eq_ok_iff.1 hz
  exact h a z ha

theorem withMantissa (x : Decimal) (m : Int) : x.Keeps (x.withMantissa m) := by
  intro z hz
  obtain ⟨hdigits, rfl⟩ := withMantissa_eq_ok_iff.1 hz
  exact ⟨rfl, .inr hdigits⟩

/-- Places are made of a mantissa that is checked. -/
theorem withPlaces (x : Decimal) (units : Int) (digits : Nat) :
    x.Keeps (x.withPlaces units digits) :=
  withMantissa x _

end Keeps

theorem keeps_addOne (x : Decimal) : x.Keeps x.addOne := .withMantissa x _

theorem keeps_subtractOne (x : Decimal) : x.Keeps x.subtractOne := .withMantissa x _

theorem keeps_multiplyInt (x : Decimal) (factor : Int) : x.Keeps (x.multiplyInt factor) := by
  unfold multiplyInt
  split_ifs
  · exact .ok (.refl x)
  · exact .ok (boundedBy_negate x)
  · exact .withMantissa x _

theorem keeps_divideInt (x : Decimal) (divisor : Int) : x.Keeps (x.divideInt divisor) := by
  unfold divideInt
  split_ifs
  · exact .error _
  · exact .ok (.refl x)
  · exact .ok (boundedBy_negate x)
  · exact .ok (boundedBy_setMantissa (Int.natAbs_tdiv_le_natAbs _ _))

theorem keeps_remainderInt (x : Decimal) (divisor : Int) : x.Keeps (x.remainderInt divisor) := by
  unfold remainderInt
  split_ifs
  · exact .error _
  · exact .ok (boundedBy_zero x)
  · exact .ok (boundedBy_setMantissa (natAbs_tmod_le _ _))

theorem keeps_multiply (x y : Decimal) (mode : RoundingMode) : x.Keeps (x.multiply y mode) := by
  unfold multiply
  split_ifs
  · exact .ok (boundedBy_zero x)
  · exact .ok (.refl x)
  · exact .ok (boundedBy_negate x)
  · exact .bind (.withMantissa x)

theorem keeps_divide (x y : Decimal) (mode : RoundingMode) : x.Keeps (x.divide y mode) := by
  unfold divide
  split_ifs
  · exact .error _
  · exact .ok (.refl x)
  · exact .ok (.refl x)
  · exact .ok (boundedBy_negate x)
  · exact .bind (.withMantissa x)

theorem keeps_multiplyRatio (x : Decimal) (numerator denominator : Int) (mode : RoundingMode) :
    x.Keeps (x.multiplyRatio numerator denominator mode) := by
  unfold multiplyRatio
  split_ifs
  · exact .error _
  · exact .ok (.refl x)
  · exact .bind (.withMantissa x)

theorem keeps_round (x : Decimal) (digits : Nat) (mode : RoundingMode) :
    x.Keeps (x.round digits mode) := by
  unfold round
  split_ifs
  · exact .ok (.refl x)
  · exact .bind fun units => .withPlaces x units _

theorem keeps_multiplyToPlaces (x y : Decimal) (digits : Nat) (mode : RoundingMode) :
    x.Keeps (x.multiplyToPlaces y digits mode) := by
  unfold multiplyToPlaces
  split_ifs
  · exact .ok (boundedBy_zero x)
  · exact .bind fun units => .withPlaces x units _

theorem keeps_divideToPlaces (x y : Decimal) (digits : Nat) (mode : RoundingMode) :
    x.Keeps (x.divideToPlaces y digits mode) := by
  unfold divideToPlaces
  dsimp only
  split_ifs
  · exact .error _
  · exact .ok (.refl x)
  · exact .bind fun units => .withPlaces x units _
  · exact .bind fun _ => .bind fun _ => .bind fun units => .withPlaces x units _

theorem keeps_divideIntToPlaces (x : Decimal) (divisor : Int) (digits : Nat) (mode : RoundingMode) :
    x.Keeps (x.divideIntToPlaces divisor digits mode) := by
  unfold divideIntToPlaces
  split_ifs
  · exact .error _
  · exact .bind fun _ => .bind fun units => .withPlaces x units _

/-- A sum is one of its operands, or it is checked at the scale of one of them. -/
theorem boundedBy_of_add (h : x.add y = .ok z) : z.BoundedBy x ∨ z.BoundedBy y := by
  unfold add at h
  split_ifs at h
  · exact .inl (Keeps.ok (.refl x) z h)
  · exact .inr (Keeps.ok (.refl y) z h)
  · exact .inl (Keeps.bind (fun _ => .withMantissa x _) z h)
  · exact .inr (Keeps.bind (fun _ => .withMantissa y _) z h)

/-! ### Units and parts -/

/-- A mantissa that has been checked, at a scale. -/
theorem checkDigits_atScale_eq_ok_iff {scale : Scale} :
    (checkDigits m >>= fun m => Except.ok (atScale m scale)) = .ok z ↔
      FitsDigits m ∧ z = atScale m scale := by
  rw [bind_eq_ok_iff]
  constructor
  · rintro ⟨_, hm, hz⟩
    obtain ⟨hdigits, rfl⟩ := checkDigits_eq_ok_iff.1 hm
    cases hz
    exact ⟨hdigits, rfl⟩
  · rintro ⟨hdigits, rfl⟩
    exact ⟨m, checkDigits_of_fitsDigits hdigits, rfl⟩

/-- A scale that is one needs no check. -/
theorem ofUnits_of_scale (m : Int) (scale : Scale) :
    ofUnits m scale.1 = (do return atScale (← checkDigits m) scale) := by
  rw [ofUnits, checkScale_val]
  rfl

/-- What is made of units has been checked. -/
theorem fitsDigits_of_ofUnits {places : Nat} (h : ofUnits m places = .ok z) :
    FitsDigits z.mantissa ∧ z.mantissa = m ∧ z.scale = places := by
  obtain ⟨scale, hscale, h⟩ := bind_eq_ok_iff.1 h
  obtain ⟨hdigits, rfl⟩ := checkDigits_atScale_eq_ok_iff.1 h
  exact ⟨hdigits, rfl, checkScale_eq_ok_iff.1 hscale⟩

/-- The places are less than one, and the mantissa they make up with the integral part is checked. -/
theorem ofParts_eq_ok_iff {integral : Int} {fraction : Nat} {scale : Scale} :
    ofParts integral fraction scale = .ok z ↔ (fraction : Int) < 10 ^ scale.1 ∧
      ∃ m, m = integral * 10 ^ scale.1 + (if integral < 0 then -(fraction : Int) else fraction) ∧
        FitsDigits m ∧ z = atScale m scale := by
  have small : (fraction : Int) < 10 ^ scale.1 ↔ ¬10 ^ scale.1 ≤ fraction := by
    rw [not_le]
    exact_mod_cast Iff.rfl
  rw [small, exists_eq_left, ofParts]
  by_cases large : 10 ^ scale.1 ≤ fraction
  · rw [if_pos large]
    exact iff_of_false nofun fun h => h.1 large
  · rw [if_neg large, and_iff_right large]
    exact checkDigits_atScale_eq_ok_iff

/-! ### Changes of scale -/

/-- A mantissa at another scale has at most eighteen digits: it has been checked if the scale is
larger, and divided by ten at least if it is smaller. -/
theorem fitsDigits_of_rescale {target : Nat} (hx : x.Bounded)
    (h : rescale x.mantissa x.scale target mode = .ok m) :
    FitsDigits m ∨ (x.scale = target ∧ m = x.mantissa) := by
  unfold rescale at h
  split_ifs at h with same wider
  · cases h
    rcases same with zero | same
    · exact .inl (zero ▸ fitsDigits_zero)
    · exact .inr ⟨same, rfl⟩
  · obtain ⟨_, _, h⟩ := bind_eq_ok_iff.1 h
    obtain ⟨hdigits, rfl⟩ := checkDigits_eq_ok_iff.1 h
    exact .inl hdigits
  · obtain ⟨power, hpower, h⟩ := bind_eq_ok_iff.1 h
    obtain ⟨_, rfl⟩ := powerOfTen_eq_ok_iff.1 hpower
    rw [Int.toNat_natCast] at h
    have hten : 10 ≤ ((10 : Int) ^ (x.scale - target)).natAbs := by
      rw [Int.natAbs_pow]
      exact Nat.le_self_pow (by omega) 10
    have hrounded := natAbs_le_of_divideRounded h
    have hquotient : x.mantissa.natAbs / ((10 : Int) ^ (x.scale - target)).natAbs ≤
        10 ^ maxScale / 10 := Nat.div_le_div hx.natAbs_le hten (by decide)
    refine .inl ?_
    unfold FitsDigits maxMantissa maxScale at *
    omega

/-- **A decimal at another scale is bounded**, and at its own scale it stays as it is. -/
theorem bounded_of_withScale {places : Nat} (hx : x.Bounded)
    (h : x.withScale places mode = .ok z) : z.scale = places ∧ z.Bounded := by
  obtain ⟨scale, hscale, h⟩ := bind_eq_ok_iff.1 h
  obtain ⟨m, hm, h⟩ := bind_eq_ok_iff.1 h
  cases h
  obtain rfl := checkScale_eq_ok_iff.1 hscale
  refine ⟨rfl, ?_⟩
  rcases fitsDigits_of_rescale hx hm with hdigits | ⟨same, rfl⟩
  · exact .inl hdigits
  · exact hx.of_boundedBy ⟨same.symm, .inl le_rfl⟩

/-! ### Steps without a check -/

/-- What is done without a check to the mantissa and the scale of one decimal. -/
structure StepsFit (x : Decimal) : Prop where
  /-- The sign can be changed. -/
  opposite : FitsWord (-x.mantissa)
  /-- One can be added. -/
  plus_unit : FitsWord (x.mantissa + x.unit)
  /-- One can be subtracted. -/
  minus_unit : FitsWord (x.mantissa - x.unit)
  /-- Minus one has a mantissa. -/
  unit_opposite : FitsWord (-x.unit)
  /-- There are powers of ten for the scale and for what is left of it behind some digits. -/
  power : ∀ digits, powersOfTen[x.scale - digits]? = some (10 ^ (x.scale - digits))

theorem Bounded.stepsFit (h : x.Bounded) : x.StepsFit := by
  have hmantissa := h.natAbs_le
  have hunit := (bounded_one x.ownScale).natAbs_le
  have hpos := x.unit_pos
  have hone : (one x.ownScale).mantissa = x.unit := rfl
  rw [hone] at hunit
  unfold maxScale at hmantissa hunit
  constructor
  case power => exact fun digits => getElem?_powersOfTen ((Nat.sub_le _ _).trans x.scale_le)
  all_goals
    unfold FitsWord
    omega

/-- So bounded decimals are compared without an overrun. -/
theorem Bounded.hasOpposite (h : x.Bounded) : x.HasOpposite := ⟨h.fitsWord, h.stepsFit.opposite⟩

end Decimal

/-! ### Values of a format -/

namespace Format

/-- The decimal is a value of the format: it is bounded, and its scale is allowed. -/
structure Contains (format : Format) (x : Decimal) : Prop where
  admits : format.Admits x
  bounded : x.Bounded

variable {format : Format} {x z : Decimal}

theorem Admits.of_scale_eq (h : format.Admits x) (same : z.scale = x.scale) : format.Admits z := by
  cases format with
  | fixed scale => exact same.trans h
  | free => trivial

theorem Contains.of_fitsDigits (admits : format.Admits z) (hdigits : FitsDigits z.mantissa) :
    format.Contains z :=
  ⟨admits, .inl hdigits⟩

theorem Contains.of_boundedBy (hx : format.Contains x) (h : z.BoundedBy x) : format.Contains z :=
  ⟨hx.admits.of_scale_eq h.scale_eq, hx.bounded.of_boundedBy h⟩

theorem Contains.of_keeps {result : Except Failure Decimal} (hx : format.Contains x)
    (keeps : x.Keeps result) (h : result = .ok z) : format.Contains z :=
  hx.of_boundedBy (keeps z h)

end Format

end DecimalMoney
