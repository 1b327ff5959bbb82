import DecimalMoney.Amount.Tax
import DecimalMoney.Proofs.Sums

/-!
# Overruns of a split

Almost all steps on words check their results: such a step may fail, but it does not overrun, and
neither does a sequence of such steps.  A gross value is split by checked steps up to the last one,
which adds what is left over to the net value.  So a split overruns exactly where that sum leaves
the words.

## Main definitions

* `DecimalMoney.NoOverrun` : a computation that may fail, but does not overrun.

## Main results

* `DecimalMoney.NoOverrun.bind`, `DecimalMoney.noOverrun_mapM`, `DecimalMoney.noOverrun_foldlM` :
  sequences of such computations.
* `DecimalMoney.TaxSplit.noOverrun_ofGross` : net value, taxes and what they leave over.
* `DecimalMoney.Amount.splitTaxes_eq_overrun_iff` : where a split overruns.
-/

namespace DecimalMoney

/-- The computation may fail, but it does not overrun. -/
def NoOverrun {α : Type} (result : Except Failure α) : Prop := result ≠ .error .overrun

section Sequences

variable {α β : Type}

theorem noOverrun_ok (a : α) : NoOverrun (.ok a) := nofun

theorem noOverrun_error {failure : Failure} (h : failure ≠ .overrun) :
    NoOverrun (.error failure : Except Failure α) :=
  fun overrun => h (Except.error.inj overrun)

/-- A check passes on what it is given or reports an overflow. -/
theorem noOverrun_check (condition : Prop) [Decidable condition] (a : α) :
    NoOverrun (if condition then .ok a else .error .overflow) := by
  split_ifs
  · exact noOverrun_ok a
  · exact noOverrun_error nofun

theorem NoOverrun.bind {first : Except Failure α} {next : α → Except Failure β}
    (hfirst : NoOverrun first) (hnext : ∀ a, NoOverrun (next a)) : NoOverrun (first >>= next) := by
  cases first with
  | ok a => exact hnext a
  | error failure => exact noOverrun_error fun overrun => hfirst (congrArg _ overrun)

theorem noOverrun_mapM {f : α → Except Failure β} (h : ∀ a, NoOverrun (f a)) (l : List α) :
    NoOverrun (l.mapM f) := by
  intro overrun
  obtain ⟨a, _, ha⟩ := exists_mem_of_mapM_error overrun
  exact h a ha

theorem noOverrun_foldlM {f : β → α → Except Failure β} (h : ∀ b a, NoOverrun (f b a))
    (l : List α) (start : β) : NoOverrun (l.foldlM f start) := by
  induction l generalizing start with
  | nil => exact noOverrun_ok start
  | cons a l ih =>
    rw [List.foldlM_cons]
    exact (h start a).bind ih

end Sequences

/-! ### Steps that are checked -/

theorem noOverrun_checkDigits (n : Int) : NoOverrun (checkDigits n) :=
  noOverrun_check (FitsDigits n) n

theorem noOverrun_checkWord (n : Int) : NoOverrun (checkWord n) := noOverrun_check (FitsWord n) n

theorem noOverrun_powerOfTen (n : Int) : NoOverrun (powerOfTen n) :=
  noOverrun_check (0 ≤ n ∧ n ≤ maxScale) _

theorem noOverrun_checkScale (places : Nat) : NoOverrun (checkScale places) := by
  unfold checkScale
  split_ifs
  · exact noOverrun_ok _
  · exact noOverrun_error nofun

theorem TruncatedQuotient.noOverrun_round (q : TruncatedQuotient) (mode : RoundingMode) :
    NoOverrun (q.round mode) := by
  unfold TruncatedQuotient.round
  split_ifs
  · exact noOverrun_error nofun
  · exact noOverrun_checkWord _

theorem noOverrun_rescale (m : Int) (source target : Nat) (mode : RoundingMode) :
    NoOverrun (rescale m source target mode) := by
  unfold rescale divideRounded
  split_ifs
  · exact noOverrun_ok m
  · exact (noOverrun_powerOfTen _).bind fun _ => noOverrun_checkDigits _
  · refine (noOverrun_powerOfTen _).bind fun power => ?_
    split_ifs
    · exact noOverrun_error nofun
    · exact TruncatedQuotient.noOverrun_round _ mode

theorem TruncatedQuotient.noOverrun_ofProduct (backend : Backend) (a b divisor : Int) :
    NoOverrun (ofProduct backend a b divisor) := by
  unfold ofProduct
  split_ifs
  · exact noOverrun_error nofun
  · dsimp only
    split
    · exact noOverrun_error nofun
    · exact noOverrun_ok _

theorem noOverrun_divideProduct (a b divisor : Int) (mode : RoundingMode) :
    NoOverrun (divideProduct a b divisor mode) := by
  unfold divideProduct divideProductOn
  split_ifs
  · exact noOverrun_error nofun
  · exact noOverrun_ok 0
  · exact (TruncatedQuotient.noOverrun_ofProduct _ a b divisor).bind fun q => q.noOverrun_round mode

theorem noOverrun_wordSum (values : List Int) : NoOverrun (wordSum values) :=
  noOverrun_foldlM (fun _ _ => noOverrun_checkWord _) values 0

theorem noOverrun_shortfall (values : List Int) : NoOverrun (shortfall values) := by
  cases values with
  | nil => exact noOverrun_ok 0
  | cons total parts => exact (noOverrun_wordSum parts).bind fun _ => noOverrun_checkWord _

/-! ### Splits -/

theorem Decimal.noOverrun_commonSum (xs : List Decimal) (withOne : Bool) :
    NoOverrun (commonSum xs withOne) := by
  refine NoOverrun.bind (noOverrun_foldlM (fun _ x => ?_) xs _) fun sum => ?_
  · exact (noOverrun_rescale _ _ _ _).bind fun _ => noOverrun_checkWord _
  · exact (noOverrun_checkScale _).bind fun _ =>
      (noOverrun_checkDigits sum).bind fun _ => noOverrun_ok _

/-- Net value and taxes are computed and summed up by checked steps. -/
theorem TaxSplit.noOverrun_ofGross (gross : Int) (rates : List Decimal) :
    NoOverrun (ofGross gross rates) := by
  refine (Decimal.noOverrun_commonSum rates true).bind fun total => ?_
  have net : NoOverrun (Amount.netInGross gross total) :=
    (noOverrun_powerOfTen _).bind fun _ => noOverrun_divideProduct _ _ _ _
  have tax : ∀ rate, NoOverrun (Amount.taxInGross gross total rate) := fun _ =>
    (noOverrun_rescale _ _ _ _).bind fun _ => noOverrun_divideProduct _ _ _ _
  exact net.bind fun _ => (noOverrun_mapM tax rates).bind fun _ =>
    (noOverrun_shortfall _).bind fun _ => noOverrun_ok _

/-- **A split overruns** exactly where there is one and its adjusted net value leaves the words. -/
theorem Amount.splitTaxes_eq_overrun_iff {a : Amount} {rates : List Decimal} :
    a.splitTaxes rates = .error .overrun ↔ a.hasBreakdown = false ∧ rates ≠ [] ∧
      ∃ split, TaxSplit.ofGross a.gross rates = .ok split ∧ ¬FitsWord split.adjustedNet := by
  constructor
  · intro overrun
    cases breakdown : a.hasBreakdown with
    | true =>
      rw [splitTaxes, if_pos breakdown] at overrun
      cases overrun
    | false =>
      have nonempty : rates ≠ [] := by
        rintro rfl
        rw [splitTaxes, breakdown, if_neg Bool.false_ne_true, if_pos rfl] at overrun
        cases overrun
      refine ⟨rfl, nonempty, ?_⟩
      rw [splitTaxes_eq breakdown nonempty] at overrun
      cases hsplit : TaxSplit.ofGross a.gross rates with
      | error failure =>
        rw [hsplit] at overrun
        obtain rfl : failure = .overrun := Except.error.inj overrun
        exact absurd hsplit (TaxSplit.noOverrun_ofGross _ _)
      | ok split =>
        refine ⟨split, rfl, fun word => ?_⟩
        rw [hsplit, ok_bind, trapWord_of_fitsWord word, ok_bind] at overrun
        exact (noOverrun_checkDigits _).bind (fun _ => noOverrun_ok _) overrun
  · rintro ⟨bare, nonempty, split, hsplit, large⟩
    rw [splitTaxes_eq bare nonempty, hsplit, ok_bind, trapWord_of_not_fitsWord large]
    rfl

end DecimalMoney
