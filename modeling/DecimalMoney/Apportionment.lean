import DecimalMoney.Wide.ProductQuotient

/-!
# Apportionment

A total and its parts are multiplied by one ratio so that the parts still add up to the total.  The
numbers come as a list with the total in front.  Each is rounded on its own first; what the rounded
total then differs from the sum of the rounded parts is taken up, one unit at a time, by numbers
that were rounded the other way, in the order of their relative rounding errors.

## Main definitions

* `DecimalMoney.shortfall` : the total less the sum of the parts.
* `DecimalMoney.deviation`, `DecimalMoney.relativeDeviation` : direction and size of a rounding
  error.
* `DecimalMoney.Share` : a rounded number on its way through the adjustment, with its weight.
* `DecimalMoney.heaviest` : the share that is adjusted next.
* `DecimalMoney.settle` : the adjustment by a number of units.
* `DecimalMoney.apportion` : the numbers multiplied by a ratio.
* `DecimalMoney.apportionScale` : the numbers at another scale.

## Main results

* `DecimalMoney.length_settle` : the adjustment keeps the number of shares.
-/

namespace DecimalMoney

/-! ### Sums -/

/-- The sum of integers, where every partial sum has to fit a word. -/
def wordSum (values : List Int) : Except Failure Int :=
  values.foldlM (fun sum v => checkWord (sum + v)) 0

/-- The total, in front of the list, less the sum of its parts. -/
def shortfall : List Int → Except Failure Int
  | [] => .ok 0
  | total :: parts => do checkWord (total - (← wordSum parts))

/-- Refuses numbers whose parts do not add up to the total. -/
def checkTotal (values : List Int) : Except Failure Unit := do
  let missing ← shortfall values
  if missing = 0 then .ok ()
  else
    let total := values.headD 0
    .error (.sumMismatch total (total - missing))

/-! ### Rounding errors -/

/-- A word as a binary float, rounded to nearest. -/
def wordToFloat (n : Nat) : Float := (UInt64.ofNat n).toFloat

namespace TruncatedQuotient

/-- The magnitude of a quotient as a binary float. -/
def toFloat (q : TruncatedQuotient) : Float :=
  wordToFloat q.whole + wordToFloat q.remainder / wordToFloat q.divisor

end TruncatedQuotient

/-- The sign of the exact quotient less the rounded one. -/
def deviation (exact : TruncatedQuotient) (rounded : Int) : Int :=
  if exact.remainder = 0 then 0
  else
    let outward := if exact.negative then -1 else 1
    if rounded.natAbs = exact.whole then outward else -outward

/-- The rounding error relative to the exact magnitude; a number rounded to zero counts with its
magnitude itself. -/
def relativeDeviation (exact : TruncatedQuotient) (rounded : Int) : Float :=
  if rounded = 0 then exact.toFloat
  else
    let fraction := wordToFloat exact.remainder / wordToFloat exact.divisor
    let error := if rounded.natAbs = exact.whole then fraction else 1 - fraction
    error / exact.toFloat

/-! ### Adjustment -/

/-- A rounded number, with the weight it has when numbers are chosen for adjustment. -/
structure Share where
  /-- The number. -/
  value : Int
  /-- The weight of a candidate; none for a number that is to stay as it is. -/
  weight : Option Float

/-- How the number at a position enters the shortfall that remains to be taken up: raising a part
uses it up, and so does lowering the total. -/
def direction (index : Nat) : Int := if index = 0 then -1 else 1

/-- A rounded number as a share.  It is a candidate if moving it by one unit in the direction that
is asked for moves it toward its exact value. -/
def Share.ofRounded (adjustment : Int) (index : Nat) (exact : TruncatedQuotient) (rounded : Int) :
    Share where
  value := rounded
  weight :=
    if 0 < deviation exact rounded * adjustment * direction index then
      some (relativeDeviation exact rounded)
    else none

/-- The heavier of the position found so far, with its weight, and the share at another position.
An equal weight does not displace it. -/
def heavier (best : Option Nat × Float) (share : Share × Nat) : Option Nat × Float :=
  match share.1.weight with
  | some weight => if best.2 < weight then (some share.2, weight) else best
  | none => best

/-- The position of the heaviest candidate, the first of them if there are several; none if no
weight is positive. -/
def heaviest (shares : List Share) : Option Nat := (shares.zipIdx.foldl heavier (none, 0)).1

/-- The number at a position; zero beyond the end. -/
def valueAt (shares : List Share) (index : Nat) : Int := (shares[index]?.map Share.value).getD 0

/-- Takes up a shortfall of `units * adjustment`, unit by unit.  A share that has been adjusted is
no candidate any more. -/
def settle (adjustment : Int) : Nat → List Share → Except Failure (List Share)
  | 0, shares => .ok shares
  | units + 1, shares =>
    match heaviest shares with
    | none =>
      .error (.sumMismatch (valueAt shares 0)
        (valueAt shares 0 - adjustment * (units + 1 : Nat)))
    | some index => do
      let adjusted ← checkDigits (valueAt shares index + adjustment * direction index)
      settle adjustment units (shares.set index ⟨adjusted, none⟩)

/-- The adjustment keeps the number of shares. -/
theorem length_settle {adjustment : Int} : {units : Nat} → {shares settled : List Share} →
    settle adjustment units shares = .ok settled → settled.length = shares.length
  | 0, _, _, h => by cases h; rfl
  | units + 1, shares, settled, h => by
      rw [settle] at h
      split at h
      · cases h
      · obtain ⟨adjusted, _, h⟩ := bind_eq_ok_iff.1 h
        simpa using length_settle h

/-! ### Ratios -/

/-- Every number multiplied by `numerator / denominator` and rounded by `mode`, with the rounding
errors distributed so that the parts add up to the total.  The numbers given have to add up. -/
def apportion (values : List Int) (numerator denominator : Int) (mode : RoundingMode) :
    Except Failure (List Int) := do
  checkTotal values
  let exact ← values.mapM fun v => TruncatedQuotient.ofProduct .installed v numerator denominator
  let rounded ← exact.mapM fun q => do checkDigits (← q.round mode)
  let missing ← shortfall rounded
  if missing = 0 then return rounded
  let shares := (exact.zip rounded).mapIdx fun index share =>
    Share.ofRounded missing.sign index share.1 share.2
  return (← settle missing.sign missing.natAbs shares).map Share.value

/-- Mantissas at scale `source`, expressed at scale `target`.  A larger scale is reached by exact
products; a smaller one by an apportioned division with ties to even. -/
def apportionScale (values : List Int) (source target : Nat) : Except Failure (List Int) := do
  checkTotal values
  if source ≤ target then
    let factor ← powerOfTen (target - source : Nat)
    values.mapM fun v => checkDigits (v * factor)
  else
    apportion values 1 (← powerOfTen (source - target : Nat)) .halfEven

end DecimalMoney
