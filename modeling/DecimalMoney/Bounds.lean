import DecimalMoney.Failure
import DecimalMoney.Power

/-!
# Bounds

A decimal has at most eighteen digits in its mantissa and at most eighteen places after the point;
what is computed on the way has to fit a signed word of 64 bits.  This file states both bounds as
predicates on integers, with the checks that enforce them, and the powers of ten that a scale
can name.  A step on words that is not checked traps where its result is none, and so does a look
beyond the end of the table of powers.

## Main definitions

* `DecimalMoney.maxScale`, `DecimalMoney.maxMantissa` : the largest scale and mantissa.
* `DecimalMoney.FitsDigits`, `DecimalMoney.checkDigits` : at most eighteen digits.
* `DecimalMoney.FitsWord`, `DecimalMoney.checkWord` : within a signed word of 64 bits.
* `DecimalMoney.trapWord` : the result of a step that is not checked.
* `DecimalMoney.powerOfTen` : `10 ^ n` for an exponent from zero to eighteen.
* `DecimalMoney.powersOfTen`, `DecimalMoney.tabledPower` : the table of these powers.
* `DecimalMoney.Scale`, `DecimalMoney.checkScale`, `DecimalMoney.integerScale` : a number of places
  from zero to eighteen.

## Main results

* `DecimalMoney.checkDigits_eq_ok_iff`, `DecimalMoney.checkWord_eq_ok_iff` : a check passes its
  argument on exactly when the bound holds.
* `DecimalMoney.trapWord_eq_ok_iff`, `DecimalMoney.trapWord_of_not_fitsWord` : the two outcomes of
  a step that is not checked.
* `DecimalMoney.FitsDigits.fitsWord` : eighteen digits fit a word.
* `DecimalMoney.powerOfTen_eq_ok_iff` : a power of ten has an exponent from zero to eighteen.
* `DecimalMoney.checkWord_bind` : a check that a later one makes superfluous.
-/

namespace DecimalMoney

/-- The largest scale: the number of places after the point. -/
def maxScale : Nat := 18

/-- The largest mantissa: eighteen nines. -/
def maxMantissa : Int := 10 ^ maxScale - 1

/-- The integer has at most eighteen decimal digits. -/
def FitsDigits (n : Int) : Prop := -maxMantissa ≤ n ∧ n ≤ maxMantissa

instance (n : Int) : Decidable (FitsDigits n) := inferInstanceAs (Decidable (_ ∧ _))

/-- The integer fits a signed word of 64 bits. -/
def FitsWord (n : Int) : Prop := -0x8000000000000000 ≤ n ∧ n < 0x8000000000000000

instance (n : Int) : Decidable (FitsWord n) := inferInstanceAs (Decidable (_ ∧ _))

/-- Passes on an integer of at most eighteen digits. -/
def checkDigits (n : Int) : Except Failure Int :=
  if FitsDigits n then .ok n else .error .overflow

/-- Passes on an integer that fits a signed word. -/
def checkWord (n : Int) : Except Failure Int :=
  if FitsWord n then .ok n else .error .overflow

/-- The result of a step on words that is not checked.  Where it is no word, the step traps. -/
def trapWord (n : Int) : Except Failure Int :=
  if FitsWord n then .ok n else .error .overrun

theorem checkDigits_eq_ok_iff {n m : Int} : checkDigits n = .ok m ↔ FitsDigits n ∧ m = n := by
  unfold checkDigits
  split <;> simp_all [eq_comm]

/-- An integer of more digits overflows. -/
theorem checkDigits_eq_overflow_iff {n : Int} :
    checkDigits n = .error .overflow ↔ ¬FitsDigits n := by
  unfold checkDigits
  split <;> simp_all

theorem checkWord_eq_ok_iff {n m : Int} : checkWord n = .ok m ↔ FitsWord n ∧ m = n := by
  unfold checkWord
  split <;> simp_all [eq_comm]

theorem checkDigits_of_fitsDigits {n : Int} (h : FitsDigits n) : checkDigits n = .ok n :=
  checkDigits_eq_ok_iff.2 ⟨h, rfl⟩

/-- An integer that leaves the words overflows. -/
theorem checkWord_of_not_fitsWord {n : Int} (h : ¬FitsWord n) : checkWord n = .error .overflow :=
  if_neg h

theorem checkWord_of_fitsWord {n : Int} (h : FitsWord n) : checkWord n = .ok n :=
  checkWord_eq_ok_iff.2 ⟨h, rfl⟩

/-- A check can be left out where what follows overflows without it. -/
theorem checkWord_bind {α : Type} {n : Int} {next : Int → Except Failure α}
    (h : ¬FitsWord n → next n = .error .overflow) : (checkWord n >>= next) = next n := by
  unfold checkWord
  split
  · rfl
  · rename_i large
    exact (h large).symm

theorem trapWord_eq_ok_iff {n m : Int} : trapWord n = .ok m ↔ FitsWord n ∧ m = n := by
  unfold trapWord
  split <;> simp_all [eq_comm]

theorem trapWord_of_fitsWord {n : Int} (h : FitsWord n) : trapWord n = .ok n := if_pos h

/-- A step that leaves the words traps. -/
theorem trapWord_of_not_fitsWord {n : Int} (h : ¬FitsWord n) : trapWord n = .error .overrun :=
  if_neg h

/-- Eighteen digits fit a word. -/
theorem FitsDigits.fitsWord {n : Int} (h : FitsDigits n) : FitsWord n := by
  unfold FitsDigits maxMantissa maxScale at h
  unfold FitsWord
  omega

theorem FitsDigits.neg {n : Int} (h : FitsDigits n) : FitsDigits (-n) := by
  unfold FitsDigits at *
  omega

theorem fitsDigits_neg_iff {n : Int} : FitsDigits (-n) ↔ FitsDigits n :=
  ⟨fun h => Int.neg_neg n ▸ h.neg, FitsDigits.neg⟩

/-- An integer of smaller magnitude has no more digits. -/
theorem FitsDigits.of_natAbs_le {m n : Int} (h : FitsDigits n) (hle : m.natAbs ≤ n.natAbs) :
    FitsDigits m := by
  unfold FitsDigits at *
  omega

/-- An integer with zeros behind it has no fewer digits. -/
theorem FitsDigits.of_mul_ten_pow {n : Int} {zeros : Nat} (h : FitsDigits (n * 10 ^ zeros)) :
    FitsDigits n := by
  refine h.of_natAbs_le ?_
  rw [Int.natAbs_mul]
  exact Nat.le_mul_of_pos_right _ (Int.natAbs_pos.2 (Int.ne_of_gt (ten_pow_pos zeros)))

theorem fitsDigits_zero : FitsDigits 0 := by decide

theorem fitsDigits_one : FitsDigits 1 := by decide

theorem fitsDigits_maxMantissa : FitsDigits maxMantissa := by decide

/-- `10 ^ n`, where an exponent below zero or above eighteen is an overflow. -/
def powerOfTen (n : Int) : Except Failure Int :=
  if 0 ≤ n ∧ n ≤ maxScale then .ok (10 ^ n.toNat) else .error .overflow

theorem powerOfTen_natCast {n : Nat} (h : n ≤ maxScale) : powerOfTen n = .ok (10 ^ n) := by
  have : (n : Int) ≤ maxScale := by omega
  simp [powerOfTen, this]

/-- A larger exponent is an overflow. -/
theorem powerOfTen_of_lt {n : Nat} (h : maxScale < n) : powerOfTen n = .error .overflow :=
  if_neg fun within => by omega

/-- A power of ten has an exponent from zero to eighteen. -/
theorem powerOfTen_eq_ok_iff {n power : Int} :
    powerOfTen n = .ok power ↔ (0 ≤ n ∧ n ≤ maxScale) ∧ power = 10 ^ n.toNat := by
  by_cases h : 0 ≤ n ∧ n ≤ maxScale
  · simp [powerOfTen, h, eq_comm]
  · rw [powerOfTen, if_neg h]
    simp [h]

/-- A power of ten that a scale can name fits a word. -/
theorem fitsWord_ten_pow {n : Nat} (h : n ≤ maxScale) : FitsWord (10 ^ n) := by
  have hle : (10 : Nat) ^ n ≤ 10 ^ maxScale := Nat.pow_le_pow_right (by decide) h
  have hlt : (10 : Nat) ^ n < 0x8000000000000000 := Nat.lt_of_le_of_lt hle (by decide)
  have hcast : ((10 ^ n : Nat) : Int) = 10 ^ n := by simp
  have hpos := ten_pow_pos n
  refine ⟨by omega, ?_⟩
  rw [← hcast]
  exact Int.ofNat_lt.2 hlt

/-- The powers of ten in ascending order, from `10 ^ 0` to `10 ^ 18`. -/
def powersOfTen : List Int := (List.range (maxScale + 1)).map (10 ^ ·)

/-- The power of ten that a scale names is found at its place. -/
theorem getElem?_powersOfTen {n : Nat} (h : n ≤ maxScale) : powersOfTen[n]? = some (10 ^ n) := by
  have inside : n < (List.range (maxScale + 1)).length := by
    rw [List.length_range]
    omega
  rw [powersOfTen, List.getElem?_map, List.getElem?_eq_getElem inside, List.getElem_range]
  rfl

/-- A power of ten from the table.  A look beyond its end traps. -/
def tabledPower (n : Nat) : Except Failure Int :=
  match powersOfTen[n]? with
  | some power => .ok power
  | none => .error .overrun

theorem tabledPower_of_le {n : Nat} (h : n ≤ maxScale) : tabledPower n = .ok (10 ^ n) := by
  rw [tabledPower, getElem?_powersOfTen h]

/-- A number of places after the point that a decimal can have. -/
abbrev Scale := { places : Nat // places ≤ maxScale }

/-- The scale of integers, which have no places. -/
def integerScale : Scale := ⟨0, Nat.zero_le maxScale⟩

/-- Passes on a number of places that is a scale. -/
def checkScale (places : Nat) : Except Failure Scale :=
  if h : places ≤ maxScale then .ok ⟨places, h⟩ else .error .overflow

/-- A scale that has been checked is the number of places. -/
theorem checkScale_eq_ok_iff {places : Nat} {scale : Scale} :
    checkScale places = .ok scale ↔ scale.1 = places := by
  unfold checkScale
  split
  · simp [Subtype.ext_iff, eq_comm]
  · rename_i large
    simp only [reduceCtorEq, false_iff]
    rintro rfl
    exact large scale.2

@[simp] theorem checkScale_val (scale : Scale) : checkScale scale.1 = .ok scale :=
  checkScale_eq_ok_iff.2 rfl

end DecimalMoney
