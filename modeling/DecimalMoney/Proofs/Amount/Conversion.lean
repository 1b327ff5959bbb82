import DecimalMoney.Proofs.Amount.Reachable
import DecimalMoney.Proofs.Apportionment.Apportioned
import DecimalMoney.Proofs.Decimal.Value

/-!
# Conversions at an exchange rate

An amount in another currency is the amount times one rational number: the rate, scaled by the
powers of ten of both minor units.  The scale of the rate and the digits of both minor units make
one exponent.  If the target has the finer units, the factor is an integer and nothing is rounded;
otherwise the numbers of the amount are multiplied by a ratio, whose denominator is a power of ten
of at most eighteen zeros.

## Main definitions

* `DecimalMoney.exchangeFactor` : what a conversion multiplies minor units by.
* `DecimalMoney.Amount.Converted` : what a conversion yields.

## Main results

* `DecimalMoney.Amount.near_of_scaleTo` : an amount times a ratio.
* `DecimalMoney.Amount.conversions_exact` : what conversions yield, and which ones overflow.
-/

namespace DecimalMoney

open RoundingMode

/-! ### The factor -/

/-- The minor units of the target for one minor unit of the source. -/
def exchangeFactor (rate : Decimal) (source target : Currency) : ℚ :=
  rate.value * 10 ^ target.decimals / 10 ^ source.decimals

section Factor

variable {rate : Decimal} {source target : Currency}

/-- In finer units the factor is an integer. -/
theorem exchangeFactor_of_finer (finer : rate.scale + source.decimals ≤ target.decimals) :
    exchangeFactor rate source target =
      ((rate.mantissa * 10 ^ (target.decimals - (rate.scale + source.decimals)) : Int) : ℚ) := by
  have split : (10 : ℚ) ^ target.decimals =
      10 ^ (target.decimals - (rate.scale + source.decimals)) * 10 ^ rate.scale *
        10 ^ source.decimals := by
    rw [← pow_add, ← pow_add]
    congr 1
    omega
  rw [exchangeFactor, Decimal.value, split]
  push_cast
  field_simp

/-- In coarser units it is a ratio. -/
theorem exchangeFactor_of_coarser (coarser : target.decimals < rate.scale + source.decimals) :
    exchangeFactor rate source target =
      rate.mantissa / ((10 ^ (rate.scale + source.decimals - target.decimals) : Int) : ℚ) := by
  have split : (10 : ℚ) ^ rate.scale * 10 ^ source.decimals =
      10 ^ (rate.scale + source.decimals - target.decimals) * 10 ^ target.decimals := by
    rw [← pow_add, ← pow_add]
    congr 1
    omega
  rw [exchangeFactor, Decimal.value]
  push_cast
  field_simp
  linear_combination (-rate.mantissa : ℚ) * split

end Factor

namespace Amount

variable {a b : Amount} {rate : Decimal} {target : Currency}

/-! ### Multiples by a ratio -/

/-- An amount times a ratio, every number less than one unit from its exact product.  Without a
breakdown there is one rounding. -/
theorem near_of_scaleTo {numerator denominator : Int} {mode : RoundingMode}
    (nonzero : denominator ≠ 0) (words : ∀ v ∈ a.gross :: a.components, FitsWord v)
    (hn : FitsWord numerator) (hd : FitsWord denominator)
    (h : a.scaleTo target numerator denominator mode = .ok b) :
    b.currency = target ∧
      List.Forall₂ (fun x y : Int => |(y : ℚ) - x * numerator / denominator| < 1)
        (a.gross :: a.components) (b.gross :: b.components) ∧
      (a.components = [] → b.gross = mode.round ((a.gross : ℚ) * numerator / denominator)) := by
  obtain ⟨hcurrency, ⟨bare, none, _, hquotient⟩ | ⟨breakdown, happortion⟩⟩ := scaleTo_cases h
  · have hround := eq_round_of_divideProduct (words _ List.mem_cons_self) hn hd nonzero hquotient
    refine ⟨hcurrency, ?_, fun _ => hround⟩
    rw [bare, none, hround]
    exact .cons (mode.abs_round_sub_lt_one _) .nil
  · have happortioned := apportioned_of_apportion nonzero words hn hd happortion
    exact ⟨hcurrency, happortioned.forall₂_near nonzero, fun bare => absurd bare breakdown⟩

/-! ### Conversions -/

/-- The amount `b` is the amount `a` in the target currency, at an exchange rate. -/
structure Converted (a : Amount) (rate : Decimal) (target : Currency) (b : Amount) : Prop where
  /-- It is in the target currency. -/
  currency_eq : b.currency = target
  /-- There are as many components as before. -/
  length_eq : b.components.length = a.components.length
  /-- Gross value and components lie less than one unit from their exact products. -/
  near : List.Forall₂
    (fun x y : Int => |(y : ℚ) - exchangeFactor rate a.currency target * x| < 1)
    (a.gross :: a.components) (b.gross :: b.components)
  /-- They are the exact products if the units of the target are fine enough for the rate. -/
  exact : rate.scale + a.currency.decimals ≤ target.decimals → List.Forall₂
    (fun x y : Int => (y : ℚ) = exchangeFactor rate a.currency target * x)
    (a.gross :: a.components) (b.gross :: b.components)
  /-- Without a breakdown the product is rounded once, with ties to even. -/
  rounded : a.components = [] →
    b.gross = halfEven.round (exchangeFactor rate a.currency target * a.gross)
  /-- With a breakdown the components add up. -/
  adds_up : a.Balanced → a.components ≠ [] → b.components.sum = b.gross

/-- What a breakdown adds up to after a conversion. -/
theorem sum_of_convert (balanced : a.Balanced) (h : a.convert rate target = .ok b)
    (length_eq : b.components.length = a.components.length) (breakdown : a.components ≠ []) :
    b.components.sum = b.gross := by
  refine balanced.convert h fun empty => breakdown ?_
  rw [← List.length_eq_zero_iff, ← length_eq, empty, List.length_nil]

/-- A conversion to finer units is exact. -/
theorem converted_of_finer (finer : rate.scale + a.currency.decimals ≤ target.decimals)
    (h : a.convert rate target = .ok b) : Converted a rate target b := by
  have hmade := h
  rw [convert_of_finer finer] at hmade
  obtain ⟨factor, hfactor, hmade⟩ := bind_eq_ok_iff.1 hmade
  obtain ⟨product, hproduct, hmade⟩ := bind_eq_ok_iff.1 hmade
  cases hmade
  obtain rfl := eq_of_multiplyInt hproduct
  have hexchange : exchangeFactor rate a.currency target = factor := by
    rw [exchangeFactor_of_finer finer, (checkWord_eq_ok_iff.1 hfactor).2]
  have exact : List.Forall₂
      (fun x y : Int => (y : ℚ) = exchangeFactor rate a.currency target * x)
      (a.gross :: a.components) ((a.gross :: a.components).map (· * factor)) := by
    rw [List.forall₂_map_right_iff, List.forall₂_same]
    intro x _
    rw [hexchange, Int.cast_mul, mul_comm]
  refine ⟨rfl, List.length_map _, exact.imp fun x y product => ?_, fun _ => exact, fun _ => ?_,
    fun balanced => sum_of_convert balanced h (List.length_map _)⟩
  · rw [product, sub_self, abs_zero]
    exact one_pos
  · rw [hexchange, ← Int.cast_mul, round_intCast, mul_comm]

/-- A conversion to coarser units multiplies by a ratio. -/
theorem converted_of_coarser (words : ∀ v ∈ a.gross :: a.components, FitsWord v)
    (hrate : FitsWord rate.mantissa)
    (coarser : target.decimals < rate.scale + a.currency.decimals)
    (h : a.convert rate target = .ok b) : Converted a rate target b := by
  have hmade := h
  rw [convert_of_coarser coarser] at hmade
  split_ifs at hmade with named
  obtain ⟨hcurrency, near, rounded⟩ :=
    near_of_scaleTo (ten_pow_pos _).ne' words hrate (fitsWord_ten_pow named) hmade
  have hproduct : ∀ x : ℚ, x * rate.mantissa /
      ((10 ^ (rate.scale + a.currency.decimals - target.decimals) : Int) : ℚ) =
        exchangeFactor rate a.currency target * x := by
    intro x
    rw [exchangeFactor_of_coarser coarser, div_mul_eq_mul_div, mul_comm]
  simp only [hproduct] at near rounded
  have length_eq : b.components.length = a.components.length := (Nat.succ.inj near.length_eq).symm
  exact ⟨hcurrency, length_eq, near, fun finer => absurd coarser finer.not_gt, rounded,
    fun balanced => sum_of_convert balanced h length_eq⟩

/-- **Conversions are exact up to one rounding.** An amount of words that is converted at a rate
becomes an amount in the target currency with as many components, whose numbers lie less than one
unit from their exact products with the factor.  If the rate and the source have together no more
places than the target, these products are what it consists of.  Without a breakdown the product is
rounded once, and with one the components add up.  If there are more than eighteen places too many,
the conversion overflows. -/
theorem conversions_exact (hgross : FitsWord a.gross) (hcomponents : ∀ c ∈ a.components, FitsWord c)
    (hrate : FitsWord rate.mantissa) :
    (∀ b, a.convert rate target = .ok b → Converted a rate target b) ∧
    (target.decimals + maxScale < rate.scale + a.currency.decimals →
      a.convert rate target = .error .overflow) := by
  constructor
  · intro b h
    rcases le_or_gt (rate.scale + a.currency.decimals) target.decimals with finer | coarser
    · exact converted_of_finer finer h
    · exact converted_of_coarser (List.forall_mem_cons.2 ⟨hgross, hcomponents⟩) hrate coarser h
  · intro excess
    rw [convert_of_coarser (by omega), if_neg (by omega)]

/-- An invoice in euros, at a rate of six places to yen, which have no minor unit; and at a rate of
eighteen places. -/
theorem conversions_exact_of_invoice :
    ∃ (a b : Amount) (yen : Currency), a.components = [840, 160] ∧
      a.convert ⟨161234567, 6, by decide⟩ yen = .ok b ∧ b.gross = 1612 ∧
      b.components = [1354, 258] ∧ Converted a ⟨161234567, 6, by decide⟩ yen b ∧
      a.convert ⟨161234567, 18, by decide⟩ yen = .error .overflow := by
  let euro : Currency := ⟨"EUR", 2, by decide +kernel, by decide⟩
  let yen : Currency := ⟨"JPY", 0, by decide +kernel, by decide⟩
  have converted : (⟨euro, 1000, [840, 160]⟩ : Amount).convert ⟨161234567, 6, by decide⟩ yen =
      .ok ⟨yen, 1612, [1354, 258]⟩ := by decide +kernel
  exact ⟨_, _, yen, rfl, converted, rfl, rfl,
    (conversions_exact (by decide) (by decide) (by decide)).1 _ converted,
    (conversions_exact (by decide) (by decide) (by decide)).2 (by decide)⟩

end Amount

end DecimalMoney
