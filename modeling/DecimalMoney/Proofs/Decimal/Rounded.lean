import DecimalMoney.Proofs.Decimal.Places

/-!
# Ways to round a decimal

A decimal is rounded to a number of places as such, or as its quotient by one, which may be an
integer or a decimal of any scale, or by taking it to the smaller scale and back.  All of these are
the one rounding of its value.  What has been rounded has no more places than were asked for, so
that it stays as it is when it is rounded again to as many or more.

## Main results

* `DecimalMoney.Decimal.divideIntToPlaces_one`, `DecimalMoney.Decimal.divideToPlaces_one` : rounding
  as a quotient by one.
* `DecimalMoney.Decimal.withScale_bind_withScale` : rounding by two changes of scale.
* `DecimalMoney.Decimal.placesAtMost_iff_exists_round` : a decimal of few places is one that need
  not be rounded.
* `DecimalMoney.Decimal.roundings_agree` : all of this together.
-/

namespace DecimalMoney.Decimal

section Digits

variable {x y : Decimal} {digits : Nat} {mode : RoundingMode} (hx : FitsDigits x.mantissa)

include hx

/-! ### Quotients by one -/

theorem divideIntToPlaces_one (digits : Nat) (mode : RoundingMode) :
    x.divideIntToPlaces 1 digits mode = x.round digits mode := by
  have word : FitsWord (1 * 10 ^ (x.scale - digits)) := by
    rw [one_mul]
    exact fitsWord_ten_pow ((Nat.sub_le _ _).trans x.scale_le)
  rw [divideIntToPlaces_eq hx.fitsWord one_ne_zero word, Int.cast_one, div_one, round_eq hx]

/-- One at a small scale takes up a power of ten, which makes it a larger power of ten. -/
theorem divideToPlaces_one (scale : Scale) (digits : Nat) (mode : RoundingMode) :
    x.divideToPlaces (one scale) digits mode = x.round digits mode := by
  have hvalue : (one scale).value = 1 := value_eq_one rfl
  have word : FitsWord (one scale).mantissa := fitsWord_ten_pow scale.2
  have longer : (one scale).scale + min digits x.scale < x.scale → FitsWord ((one scale).mantissa *
      10 ^ (x.scale - (one scale).scale - min digits x.scale)) := by
    intro fewer
    have hscale := x.scale_le
    have hpower : (one scale).mantissa = 10 ^ (one scale).scale := rfl
    rw [hpower, ← pow_add]
    exact fitsWord_ten_pow (by omega)
  rw [divideToPlaces_eq hx.fitsWord word (ten_pow_pos scale.1).ne' longer, hvalue, div_one,
    round_eq hx]

/-! ### Changes of scale -/

/-- **A decimal at another scale** has its value as mantissa, in units of the new last place and
rounded. -/
theorem withScale_eq (scale : Scale) (mode : RoundingMode) : x.withScale scale.1 mode =
    (mode.roundDigits (x.value * 10 ^ scale.1)).map fun units => atScale units scale := by
  rw [withScale, checkScale_val, ok_bind, rescale_eq_roundDigits hx x.scale_le scale.2]
  rfl

/-- **Taken to a smaller scale and back**, a decimal has been rounded. -/
theorem withScale_bind_withScale (narrower : digits ≤ x.scale) (mode : RoundingMode) :
    (do (← x.withScale digits mode).withScale x.scale .unnecessary) = x.round digits mode := by
  have hdigits : digits ≤ maxScale := narrower.trans x.scale_le
  have there := withScale_eq hx ⟨digits, hdigits⟩ mode
  rw [there, round_eq hx, roundedTo, ← RoundingMode.roundDigits_bind_checkPlaces,
    min_eq_left narrower]
  cases hunits : mode.roundDigits (x.value * 10 ^ digits) with
  | error => rfl
  | ok units =>
    have back := withScale_eq (x := atScale units ⟨digits, hdigits⟩)
      (RoundingMode.fitsDigits_of_roundDigits hunits) x.ownScale .unnecessary
    have widened : (atScale units ⟨digits, hdigits⟩).value * 10 ^ x.scale =
        ((units * 10 ^ (x.scale - digits) : Int) : ℚ) := div_ten_pow_mul_of_ge units narrower
    rw [ownScale, widened, RoundingMode.roundDigits_intCast] at back
    exact back

/-! ### What has been rounded -/

/-- A decimal of few places is rounded to itself. -/
theorem round_of_placesAtMost (few : x.placesAtMost digits = true) (mode : RoundingMode) :
    x.round digits mode = .ok x :=
  (round_eq hx digits mode).trans (roundedTo_value_eq_self hx few mode)

theorem placesAtMost_of_round (h : x.round digits mode = .ok y) :
    y.placesAtMost digits = true ∧ FitsDigits y.mantissa := by
  rw [round_eq hx] at h
  exact placesAtMost_of_roundedTo h

/-- **A decimal has few places if it need not be rounded.** -/
theorem placesAtMost_iff_exists_round :
    x.placesAtMost digits = true ↔ ∃ y, x.round digits .unnecessary = .ok y := by
  refine ⟨fun few => ⟨x, round_of_placesAtMost hx few .unnecessary⟩, ?_⟩
  rintro ⟨y, hy⟩
  rw [round_eq hx] at hy
  obtain ⟨n, hn, -⟩ := roundedTo_eq_ok_iff.1 hy
  obtain ⟨-, allowed, -⟩ := RoundingMode.roundPlaces_eq_ok_iff.1 hn
  exact fract_value_mul_pow_eq_zero_iff.1 (allowed.resolve_left fun rounds => rounds rfl)

/-- **All ways to round a decimal agree.** For a decimal of eighteen digits, the quotient by the
integer one, the quotients by one at any scale and, to no more places than there are, the change to
that scale and back have the result or the failure of rounding.  What has been rounded has no more
places than were asked for, and rounding it to as many or more, in any mode, leaves it as it is.  A
decimal has no more places exactly if it can be rounded to them where no rounding is allowed. -/
theorem roundings_agree (digits : Nat) (mode : RoundingMode) :
    x.divideIntToPlaces 1 digits mode = x.round digits mode ∧
    (∀ scale, x.divideToPlaces (one scale) digits mode = x.round digits mode) ∧
    (digits ≤ x.scale →
      (do (← x.withScale digits mode).withScale x.scale .unnecessary) = x.round digits mode) ∧
    (∀ y, x.round digits mode = .ok y → y.placesAtMost digits = true ∧
      ∀ more, digits ≤ more → ∀ again, y.round more again = .ok y) ∧
    (x.placesAtMost digits = true ↔ ∃ y, x.round digits .unnecessary = .ok y) := by
  refine ⟨divideIntToPlaces_one hx digits mode,
    fun scale => divideToPlaces_one hx scale digits mode,
    fun narrower => withScale_bind_withScale hx narrower mode, fun y hy => ?_,
    placesAtMost_iff_exists_round hx⟩
  obtain ⟨few, hdigits⟩ := placesAtMost_of_round hx hy
  exact ⟨few, fun more hle again =>
    round_of_placesAtMost hdigits (placesAtMost_mono few hle) again⟩

end Digits

/-- A tie that goes to the even neighbour, and the largest decimal, which has no room to be rounded
away from zero. -/
theorem roundings_agree_of_tie_and_largest :
    ∃ x y : Decimal, FitsDigits x.mantissa ∧ FitsDigits y.mantissa ∧ 1 ≤ x.scale ∧
      x.round 1 .halfEven = .ok (x.setMantissa 1200) ∧
      x.divideToPlaces (one ⟨0, by decide⟩) 1 .halfEven = .ok (x.setMantissa 1200) ∧
      (do (← x.withScale 1 .halfEven).withScale x.scale .unnecessary) =
        .ok (x.setMantissa 1200) ∧
      (x.setMantissa 1200).round 2 .unnecessary = .ok (x.setMantissa 1200) ∧
      y.round 0 .up = .error .overflow ∧ y.divideIntToPlaces 1 0 .up = .error .overflow := by
  let x : Decimal := ⟨1250, 3, by decide⟩
  let y : Decimal := largest ⟨2, by decide⟩
  have hx' : FitsDigits x.mantissa := by decide
  have hy' : FitsDigits y.mantissa := fitsDigits_maxMantissa
  have tie : x.round 1 .halfEven = .ok (x.setMantissa 1200) := by decide +kernel
  have noRoom : y.round 0 .up = .error .overflow := by decide +kernel
  obtain ⟨-, quotients, scales, again, -⟩ := roundings_agree hx' 1 .halfEven
  obtain ⟨quotient, -⟩ := roundings_agree hy' 0 .up
  exact ⟨x, y, hx', hy', by decide, tie, (quotients _).trans tie, (scales (by decide)).trans tie,
    (again _ tie).2 2 (by decide) .unnecessary, noRoom, quotient.trans noRoom⟩

end DecimalMoney.Decimal
