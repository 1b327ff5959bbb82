import DecimalMoney.Json.Money
import DecimalMoney.Proofs.Decimal.Bounded
import DecimalMoney.Proofs.Decimal.Order
import DecimalMoney.Proofs.Numeral.Acceptance

/-!
# Reachable decimals

Decimals come from constants, from numbers, texts and structured data, and operations make further
decimals of them, within a format or from one to another.  Whatever is done, the values of a format
stay bounded, so that no step that is left without a check can overflow.

## Main definitions

* `DecimalMoney.Decimal.Reachable` : the decimals of a format that some sequence of operations leads
  to.

## Main results

* `DecimalMoney.Format.contains_of_parse`, `DecimalMoney.Format.contains_of_ofJson` and others :
  what is read or converted is a value of the format.
* `DecimalMoney.Decimal.Reachable.contains` : every reachable decimal is a value of its format.
* `DecimalMoney.Decimal.Reachable.bounded_and_steps_fit` : so it is bounded, and steps without a
  check do not overflow.
-/

namespace DecimalMoney

namespace Format

variable {format : Format} {z : Decimal}

/-! ### Values from other sources -/

/-- What is made of units is checked, and free in its scale. -/
theorem contains_of_ofUnits {m : Int} {places : Nat} (h : Decimal.ofUnits m places = .ok z) :
    free.Contains z :=
  .of_fitsDigits trivial (Decimal.fitsDigits_of_ofUnits h).1

theorem contains_of_ofInteger {n : Int} (h : format.ofInteger n = .ok z) : format.Contains z := by
  cases format with
  | fixed scale | free =>
    obtain ⟨hdigits, rfl⟩ := Decimal.checkDigits_atScale_eq_ok_iff.1 h
    exact .of_fitsDigits (by trivial) hdigits

theorem contains_of_ofLong {x : LongDecimal} (h : format.ofLong x = .ok z) :
    format.Contains z := by
  cases format with
  | free => exact contains_of_ofUnits h
  | fixed scale =>
    unfold ofLong Decimal.ofLongAt at h
    dsimp only at h
    split_ifs at h
    all_goals
      obtain ⟨hdigits, rfl⟩ := Decimal.checkDigits_atScale_eq_ok_iff.1 h
      exact .of_fitsDigits rfl hdigits

/-- What is read from a text is a value of the format. -/
theorem contains_of_parse {text : String} (h : format.parse text = .ok z) : format.Contains z := by
  cases format with
  | free =>
    obtain ⟨_, _, _, hdigits, _⟩ := Decimal.parseShown_eq_ok_iff.1 h
    exact .of_fitsDigits trivial hdigits
  | fixed scale =>
    obtain ⟨hscale, hm⟩ := Decimal.parseAt_eq_ok_iff.1 h
    obtain ⟨_, _, _, hdigits, _⟩ := readMantissa_eq_ok_iff.1 hm
    exact .of_fitsDigits hscale hdigits

/-- What is read from structured data is a value of the format. -/
theorem contains_of_ofJson {value : Json} (h : format.ofJson value = .ok z) :
    format.Contains z := by
  unfold ofJson at h
  split at h
  · exact contains_of_parse (Decoded.ofResult_eq_ok_iff.1 h)
  · obtain ⟨_, _, h⟩ := bind_eq_ok_iff.1 (Decoded.ofResult_eq_ok_iff.1 h)
    exact contains_of_ofInteger h
  · cases h

end Format

namespace Decimal

/-! ### Values from two or more values -/

theorem contains_of_min {format : Format} {x y z : Decimal} (hx : format.Contains x)
    (hy : format.Contains y) (h : x.min y = .ok z) : format.Contains z := by
  obtain ⟨order, _, h⟩ := bind_eq_ok_iff.1 h
  cases h
  split_ifs
  · exact hy
  · exact hx

theorem contains_of_max {format : Format} {x y z : Decimal} (hx : format.Contains x)
    (hy : format.Contains y) (h : x.max y = .ok z) : format.Contains z := by
  obtain ⟨order, _, h⟩ := bind_eq_ok_iff.1 h
  cases h
  split_ifs
  · exact hy
  · exact hx

theorem contains_of_add {format : Format} {x y z : Decimal} (hx : format.Contains x)
    (hy : format.Contains y) (h : x.add y = .ok z) : format.Contains z :=
  (boundedBy_of_add h).elim hx.of_boundedBy hy.of_boundedBy

theorem contains_of_subtract {format : Format} {x y z : Decimal} (hx : format.Contains x)
    (hy : format.Contains y) (h : x.subtract y = .ok z) : format.Contains z :=
  contains_of_add hx (hy.of_boundedBy (boundedBy_negate y)) h

/-- Every partial sum is a value of the format. -/
theorem contains_of_foldlM_add {format : Format} {xs : List Decimal} {x z : Decimal}
    (hx : format.Contains x) (hxs : ∀ y ∈ xs, format.Contains y) (h : xs.foldlM add x = .ok z) :
    format.Contains z := by
  induction xs generalizing x with
  | nil =>
    cases h
    exact hx
  | cons y xs ih =>
    obtain ⟨hy, hxs⟩ := List.forall_mem_cons.1 hxs
    rw [List.foldlM_cons, bind_eq_ok_iff] at h
    obtain ⟨next, hnext, h⟩ := h
    exact ih (contains_of_add hx hy hnext) hxs h

theorem contains_of_sumList {format : Format} {xs : List Decimal} {z : Decimal}
    (hxs : ∀ x ∈ xs, format.Contains x) (h : sumList xs = .ok (some z)) : format.Contains z := by
  cases xs with
  | nil => cases h
  | cons x xs =>
    obtain ⟨hx, hxs⟩ := List.forall_mem_cons.1 hxs
    obtain ⟨total, htotal, h⟩ := bind_eq_ok_iff.1 h
    cases h
    exact contains_of_foldlM_add hx hxs htotal

/-! ### Results that are checked -/

theorem fitsDigits_of_parseAt {text : String} {places : Nat} {z : Decimal}
    (h : parseAt text places = .ok z) : FitsDigits z.mantissa := by
  obtain ⟨scale, hscale, h⟩ := bind_eq_ok_iff.1 h
  obtain ⟨m, hm, h⟩ := bind_eq_ok_iff.1 h
  cases h
  obtain ⟨_, _, _, hdigits, _⟩ := readMantissa_eq_ok_iff.1 hm
  exact hdigits

theorem contains_of_ofParts {integral : Int} {fraction : Nat} {scale : Scale} {z : Decimal}
    (h : ofParts integral fraction scale = .ok z) : (Format.fixed scale).Contains z := by
  obtain ⟨-, _, -, hdigits, rfl⟩ := ofParts_eq_ok_iff.1 h
  exact .of_fitsDigits rfl hdigits

theorem fitsDigits_of_ofFloat {value : Float} {scale : Scale} {z : Decimal}
    (h : ofFloat value scale = .ok z) : FitsDigits z.mantissa := by
  unfold ofFloat at h
  dsimp only at h
  split_ifs at h
  obtain ⟨hdigits, rfl⟩ := checkDigits_atScale_eq_ok_iff.1 h
  exact hdigits

theorem contains_of_minChecked {x y z : Decimal} (h : x.minChecked y = .ok z) :
    Format.free.Contains z := by
  obtain ⟨_, _, h⟩ := bind_eq_ok_iff.1 h
  exact Format.contains_of_ofUnits h

theorem contains_of_maxChecked {x y z : Decimal} (h : x.maxChecked y = .ok z) :
    Format.free.Contains z := by
  obtain ⟨_, _, h⟩ := bind_eq_ok_iff.1 h
  exact Format.contains_of_ofUnits h

theorem contains_of_addChecked {x y z : Decimal} (h : x.addChecked y = .ok z) :
    Format.free.Contains z := by
  obtain ⟨x', hx, h⟩ := bind_eq_ok_iff.1 h
  obtain ⟨y', hy, h⟩ := bind_eq_ok_iff.1 h
  exact contains_of_add (Format.contains_of_ofUnits hx) (Format.contains_of_ofUnits hy) h

theorem contains_of_subtractChecked {x y z : Decimal} (h : x.subtractChecked y = .ok z) :
    Format.free.Contains z := by
  obtain ⟨x', hx, h⟩ := bind_eq_ok_iff.1 h
  obtain ⟨y', hy, h⟩ := bind_eq_ok_iff.1 h
  exact contains_of_subtract (Format.contains_of_ofUnits hx) (Format.contains_of_ofUnits hy) h

theorem contains_of_commonSum {xs : List Decimal} {withOne : Bool} {z : Decimal}
    (h : commonSum xs withOne = .ok z) : Format.free.Contains z := by
  obtain ⟨_, _, h⟩ := bind_eq_ok_iff.1 h
  exact Format.contains_of_ofUnits h

theorem contains_of_hundredth {x z : Decimal} (h : x.hundredth = .ok z) :
    Format.free.Contains z := by
  unfold hundredth at h
  split_ifs at h
  all_goals exact Format.contains_of_ofUnits h

theorem contains_of_withScale {scale : Scale} {x z : Decimal} {mode : RoundingMode}
    (hx : x.Bounded) (h : x.withScale scale.1 mode = .ok z) : (Format.fixed scale).Contains z := by
  obtain ⟨hscale, hbounded⟩ := bounded_of_withScale hx h
  exact ⟨hscale, hbounded⟩

theorem contains_of_widen {scale : Scale} {x z : Decimal} (hx : x.Bounded)
    (h : x.widen scale = .ok z) : (Format.fixed scale).Contains z := by
  unfold widen at h
  split_ifs at h
  exact contains_of_withScale hx h

/-! ### Reachable decimals -/

/-- The decimals of a format that a sequence of operations leads to, each of which succeeds.  A
second operand may have another format wherever its scale does not decide on that of the result.
Integer operands may be of any size, and those that are words lead to some of these decimals.
Changes of sign and of one unit are done on integers; that they stay within the words on all these
decimals is what `Reachable.bounded_and_steps_fit` states. -/
inductive Reachable : Format → Decimal → Prop
  | ofUnits {format : Format} {m : Int} {places : Nat} {z : Decimal} :
      ofUnits m places = .ok z → format.Admits z → Reachable format z
  | zero {format : Format} {scale : Scale} :
      format.Admits (zero scale) → Reachable format (zero scale)
  | one {format : Format} {scale : Scale} :
      format.Admits (one scale) → Reachable format (one scale)
  | minusOne {format : Format} {scale : Scale} :
      format.Admits (minusOne scale) → Reachable format (minusOne scale)
  | largest {format : Format} {scale : Scale} :
      format.Admits (largest scale) → Reachable format (largest scale)
  | smallest {format : Format} {scale : Scale} :
      format.Admits (smallest scale) → Reachable format (smallest scale)
  | ofInteger {format : Format} {n : Int} {z : Decimal} :
      format.ofInteger n = .ok z → Reachable format z
  | ofParts {integral : Int} {fraction : Nat} {scale : Scale} {z : Decimal} :
      ofParts integral fraction scale = .ok z → Reachable (.fixed scale) z
  | ofFloat {format : Format} {value : Float} {scale : Scale} {z : Decimal} :
      ofFloat value scale = .ok z → format.Admits z → Reachable format z
  | ofLong {format : Format} {x : LongDecimal} {z : Decimal} :
      format.ofLong x = .ok z → Reachable format z
  | parse {format : Format} {text : String} {z : Decimal} :
      format.parse text = .ok z → Reachable format z
  | parseAt {text : String} {places : Nat} {z : Decimal} :
      parseAt text places = .ok z → Reachable .free z
  | ofJson {format : Format} {value : Json} {z : Decimal} :
      format.ofJson value = .ok z → Reachable format z
  | withMantissa {format : Format} {x z : Decimal} {m : Int} :
      Reachable format x → x.withMantissa m = .ok z → Reachable format z
  | lastPlace {format : Format} {x : Decimal} : Reachable format x → Reachable format x.lastPlace
  | negate {format : Format} {x : Decimal} : Reachable format x → Reachable format x.negate
  | abs {format : Format} {x : Decimal} : Reachable format x → Reachable format x.abs
  | min {format : Format} {x y z : Decimal} :
      Reachable format x → Reachable format y → x.min y = .ok z → Reachable format z
  | max {format : Format} {x y z : Decimal} :
      Reachable format x → Reachable format y → x.max y = .ok z → Reachable format z
  | add {format : Format} {x y z : Decimal} :
      Reachable format x → Reachable format y → x.add y = .ok z → Reachable format z
  | subtract {format : Format} {x y z : Decimal} :
      Reachable format x → Reachable format y → x.subtract y = .ok z → Reachable format z
  | sumList {format : Format} {xs : List Decimal} {z : Decimal} :
      (∀ x ∈ xs, Reachable format x) → sumList xs = .ok (some z) → Reachable format z
  | addOne {format : Format} {x z : Decimal} :
      Reachable format x → x.addOne = .ok z → Reachable format z
  | subtractOne {format : Format} {x z : Decimal} :
      Reachable format x → x.subtractOne = .ok z → Reachable format z
  | multiplyInt {format : Format} {x z : Decimal} {factor : Int} :
      Reachable format x → x.multiplyInt factor = .ok z → Reachable format z
  | divideInt {format : Format} {x z : Decimal} {divisor : Int} :
      Reachable format x → x.divideInt divisor = .ok z → Reachable format z
  | remainderInt {format : Format} {x z : Decimal} {divisor : Int} :
      Reachable format x → x.remainderInt divisor = .ok z → Reachable format z
  | divideIntToPlaces {format : Format} {x z : Decimal} {divisor : Int} {digits : Nat}
      {mode : RoundingMode} :
      Reachable format x → x.divideIntToPlaces divisor digits mode = .ok z → Reachable format z
  | multiplyRatio {format : Format} {x z : Decimal} {numerator denominator : Int}
      {mode : RoundingMode} :
      Reachable format x → x.multiplyRatio numerator denominator mode = .ok z → Reachable format z
  | round {format : Format} {x z : Decimal} {digits : Nat} {mode : RoundingMode} :
      Reachable format x → x.round digits mode = .ok z → Reachable format z
  | multiply {format other : Format} {x y z : Decimal} {mode : RoundingMode} :
      Reachable format x → Reachable other y → x.multiply y mode = .ok z → Reachable format z
  | divide {format other : Format} {x y z : Decimal} {mode : RoundingMode} :
      Reachable format x → Reachable other y → x.divide y mode = .ok z → Reachable format z
  | multiplyToPlaces {format other : Format} {x y z : Decimal} {digits : Nat}
      {mode : RoundingMode} :
      Reachable format x → Reachable other y → x.multiplyToPlaces y digits mode = .ok z →
      Reachable format z
  | divideToPlaces {format other : Format} {x y z : Decimal} {digits : Nat} {mode : RoundingMode} :
      Reachable format x → Reachable other y → x.divideToPlaces y digits mode = .ok z →
      Reachable format z
  | minChecked {format other : Format} {x y z : Decimal} :
      Reachable format x → Reachable other y → x.minChecked y = .ok z → Reachable .free z
  | maxChecked {format other : Format} {x y z : Decimal} :
      Reachable format x → Reachable other y → x.maxChecked y = .ok z → Reachable .free z
  | addChecked {format other : Format} {x y z : Decimal} :
      Reachable format x → Reachable other y → x.addChecked y = .ok z → Reachable .free z
  | subtractChecked {format other : Format} {x y z : Decimal} :
      Reachable format x → Reachable other y → x.subtractChecked y = .ok z → Reachable .free z
  | commonSum {format : Format} {xs : List Decimal} {withOne : Bool} {z : Decimal} :
      (∀ x ∈ xs, Reachable format x) → commonSum xs withOne = .ok z → Reachable .free z
  | hundredth {format : Format} {x z : Decimal} :
      Reachable format x → x.hundredth = .ok z → Reachable .free z
  | checked {format : Format} {x z : Decimal} :
      Reachable format x → x.checked = .ok z → Reachable .free z
  | withScale {x z : Decimal} {places : Nat} {mode : RoundingMode} :
      Reachable .free x → x.withScale places mode = .ok z → Reachable .free z
  | widen {format : Format} {scale : Scale} {x z : Decimal} :
      Reachable format x → x.widen scale = .ok z → Reachable (.fixed scale) z
  | toFixed {format : Format} {scale : Scale} {x z : Decimal} {mode : RoundingMode} :
      Reachable format x → x.withScale scale.1 mode = .ok z → Reachable (.fixed scale) z

/-- **Every reachable decimal is a value of its format.** -/
theorem Reachable.contains {format : Format} {x : Decimal} (h : Reachable format x) :
    format.Contains x := by
  induction h with
  | ofUnits h admits => exact .of_fitsDigits admits (fitsDigits_of_ofUnits h).1
  | zero admits => exact .of_fitsDigits admits fitsDigits_zero
  | one admits => exact ⟨admits, bounded_one _⟩
  | minusOne admits =>
    exact ⟨admits, (bounded_one _).of_boundedBy (boundedBy_negate (Decimal.one _))⟩
  | largest admits => exact .of_fitsDigits admits fitsDigits_maxMantissa
  | smallest admits => exact .of_fitsDigits admits fitsDigits_maxMantissa.neg
  | ofInteger h => exact Format.contains_of_ofInteger h
  | ofParts h => exact contains_of_ofParts h
  | ofFloat h admits => exact .of_fitsDigits admits (fitsDigits_of_ofFloat h)
  | ofLong h => exact Format.contains_of_ofLong h
  | parse h => exact Format.contains_of_parse h
  | parseAt h => exact .of_fitsDigits trivial (fitsDigits_of_parseAt h)
  | ofJson h => exact Format.contains_of_ofJson h
  | withMantissa _ h hx => exact hx.of_keeps (.withMantissa _ _) h
  | lastPlace _ hx => exact .of_fitsDigits (hx.admits.of_scale_eq rfl) fitsDigits_one
  | negate _ hx => exact hx.of_boundedBy (boundedBy_negate _)
  | abs _ hx => exact hx.of_boundedBy (boundedBy_abs _)
  | min _ _ h hx hy => exact contains_of_min hx hy h
  | max _ _ h hx hy => exact contains_of_max hx hy h
  | add _ _ h hx hy => exact contains_of_add hx hy h
  | subtract _ _ h hx hy => exact contains_of_subtract hx hy h
  | sumList _ h hxs => exact contains_of_sumList hxs h
  | addOne _ h hx => exact hx.of_keeps (keeps_addOne _) h
  | subtractOne _ h hx => exact hx.of_keeps (keeps_subtractOne _) h
  | multiplyInt _ h hx => exact hx.of_keeps (keeps_multiplyInt _ _) h
  | divideInt _ h hx => exact hx.of_keeps (keeps_divideInt _ _) h
  | remainderInt _ h hx => exact hx.of_keeps (keeps_remainderInt _ _) h
  | divideIntToPlaces _ h hx => exact hx.of_keeps (keeps_divideIntToPlaces _ _ _ _) h
  | multiplyRatio _ h hx => exact hx.of_keeps (keeps_multiplyRatio _ _ _ _) h
  | round _ h hx => exact hx.of_keeps (keeps_round _ _ _) h
  | multiply _ _ h hx _ => exact hx.of_keeps (keeps_multiply _ _ _) h
  | divide _ _ h hx _ => exact hx.of_keeps (keeps_divide _ _ _) h
  | multiplyToPlaces _ _ h hx _ => exact hx.of_keeps (keeps_multiplyToPlaces _ _ _ _) h
  | divideToPlaces _ _ h hx _ => exact hx.of_keeps (keeps_divideToPlaces _ _ _ _) h
  | minChecked _ _ h _ _ => exact contains_of_minChecked h
  | maxChecked _ _ h _ _ => exact contains_of_maxChecked h
  | addChecked _ _ h _ _ => exact contains_of_addChecked h
  | subtractChecked _ _ h _ _ => exact contains_of_subtractChecked h
  | commonSum _ h _ => exact contains_of_commonSum h
  | hundredth _ h _ => exact contains_of_hundredth h
  | checked _ h _ => exact Format.contains_of_ofUnits h
  | withScale _ h hx => exact ⟨trivial, (bounded_of_withScale hx.bounded h).2⟩
  | widen _ h hx => exact contains_of_widen hx.bounded h
  | toFixed _ h hx => exact contains_of_withScale hx.bounded h

/-- **Every reachable decimal is bounded**: its scale is at most eighteen, and its mantissa has at
most eighteen digits, except that it may be plus or minus one at scale eighteen.  So no step on such
decimals overflows or leaves the table of powers of ten, although it is not checked: none on one of
them, nor in a comparison of two, of whatever formats, which finds the order of their values. -/
theorem Reachable.bounded_and_steps_fit {format : Format} {x : Decimal} (h : Reachable format x) :
    x.scale ≤ maxScale ∧ x.Bounded ∧ x.StepsFit ∧
      ∀ {other : Format} {y : Decimal}, Reachable other y →
        ComparisonFits x.mantissa x.scale y.mantissa y.scale ∧
        x.compare y = .ok (Ord.compare x.value y.value) := by
  have hx := h.contains.bounded
  refine ⟨x.scale_le, hx, hx.stepsFit, fun hy => ?_⟩
  have opposite := hy.contains.bounded.hasOpposite
  exact ⟨hx.hasOpposite.comparisonFits opposite, hx.hasOpposite.compare_eq opposite⟩

/-- Minus one at scale eighteen, which has nineteen digits, and one half. -/
theorem Reachable.bounded_and_steps_fit_of_minus_one :
    ∃ x y : Decimal, Reachable (.fixed ⟨18, by decide⟩) x ∧ Reachable .free y ∧
      ¬FitsDigits x.mantissa ∧ x.Bounded ∧ x.StepsFit ∧
      ComparisonFits x.mantissa x.scale y.mantissa y.scale ∧
      x.compare y = .ok (Ord.compare x.value y.value) := by
  have one : Reachable (.fixed ⟨18, by decide⟩) (Decimal.one ⟨18, by decide⟩) := .one rfl
  have units : Decimal.ofUnits 5 1 = .ok ⟨5, 1, by decide⟩ := rfl
  have half : Reachable .free ⟨5, 1, by decide⟩ := .ofUnits units trivial
  obtain ⟨_, bounded, steps, comparison⟩ := one.negate.bounded_and_steps_fit
  exact ⟨_, _, one.negate, half, by decide, bounded, steps, comparison half⟩

end Decimal

end DecimalMoney
