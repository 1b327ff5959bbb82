import DecimalMoney.Proofs.Numeral.Spelling

/-!
# Numerals on words and on bytes

The magnitude of a numeral is a natural number of any size, and a text a list of characters.  On a
machine digits are gathered in a word of 64 bits, and a text is cut at offsets in bytes.  This file
takes the same steps there: where they are checked, they fail only if the result is too large, and
those that are not checked cannot fail.

## Main definitions

* `DecimalMoney.Numeral.gather` : digits gathered in a word.
* `DecimalMoney.Numeral.gatherMagnitude` : the magnitude of a numeral, computed on words.
* `DecimalMoney.Numeral.StepsFit` : every step on words fits, or is one that the result fails by.
* `DecimalMoney.IsCut` : a number of bytes after which a text can be cut.
* `DecimalMoney.Numeral.CutsFit` : the reader cuts between characters.

## Main results

* `DecimalMoney.Numeral.gather_eq` : digits are gathered if their number fits a word.
* `DecimalMoney.Numeral.stepsFit`, `DecimalMoney.Numeral.cutsFit` : both hold of every numeral and
  of every text.
-/

namespace DecimalMoney

namespace Numeral

/-! ### Digits in a word -/

/-- A word with a further digit behind its own. -/
def appendDigit (n : Int) (c : Char) : Except Failure Int := do
  checkWord ((← checkWord (n * 10)) + digitValue c)

/-- The number that digits stand for, gathered in a word from left to right. -/
def gather (digits : List Char) : Except Failure Int := digits.foldlM appendDigit 0

/-- A digit that is appended fits if the result does. -/
theorem appendDigit_eq (n : Nat) (c : Char) :
    appendDigit n c = checkWord (n * 10 + digitValue c : Nat) := by
  have hcast : ((n * 10 + digitValue c : Nat) : Int) = n * 10 + digitValue c := by push_cast; rfl
  rw [hcast]
  refine checkWord_bind fun large => if_neg ?_
  unfold FitsWord at large ⊢
  omega

/-- Further digits do not make a number smaller. -/
theorem le_foldl_digitValue (digits : List Char) (n : Nat) :
    n ≤ digits.foldl (fun n c => n * 10 + digitValue c) n := by
  induction digits generalizing n with
  | nil => exact le_rfl
  | cons c digits ih =>
    have := ih (n * 10 + digitValue c)
    rw [List.foldl_cons]
    omega

private theorem foldlM_appendDigit (digits : List Char) {n : Nat} (fits : FitsWord n) :
    digits.foldlM appendDigit (n : Int) =
      checkWord (digits.foldl (fun n c => n * 10 + digitValue c) n : Nat) := by
  induction digits generalizing n with
  | nil => exact (checkWord_of_fitsWord fits).symm
  | cons c digits ih =>
    rw [List.foldlM_cons, List.foldl_cons, appendDigit_eq]
    by_cases next : FitsWord ((n * 10 + digitValue c : Nat) : Int)
    · rw [checkWord_of_fitsWord next]
      exact ih next
    · have hle := le_foldl_digitValue digits (n * 10 + digitValue c)
      have large : ¬FitsWord
          (digits.foldl (fun n c => n * 10 + digitValue c) (n * 10 + digitValue c) : Nat) := by
        unfold FitsWord at next ⊢
        omega
      rw [checkWord, if_neg next, checkWord, if_neg large]
      rfl

/-- **Digits are gathered if their number fits a word**, however many zeros stand in front. -/
theorem gather_eq (digits : List Char) : gather digits = checkWord (valueOf digits) :=
  foldlM_appendDigit digits (n := 0) (by decide)

/-! ### The magnitude in a word -/

/-- The digits behind the point that a scale shows. -/
def kept (n : Numeral) (scale : Nat) : List Char := n.fraction.take scale

/-- The digits that a scale shows, in units of its last place. -/
def keptUnits (n : Numeral) (scale : Nat) : Nat :=
  valueOf (n.kept scale) * 10 ^ (scale - (n.kept scale).length)

/-- The magnitude of a numeral at a scale, computed on words.  The digits before the point may be
too many; those that are kept of the ones behind it are not. -/
def gatherMagnitude (n : Numeral) (scale : Nat) : Except Failure Int := do
  let integral ← gather n.integral
  let whole ← checkWord (integral * 10 ^ scale)
  checkDigits (← checkWord (whole + n.keptUnits scale))

/-- What is done on words to read a numeral at a scale. -/
structure StepsFit (n : Numeral) (scale : Nat) : Prop where
  /-- Zero can be subtracted from the code of every digit. -/
  digits : ∀ c ∈ n.integral ++ n.kept scale, 48 ≤ c.toNat
  /-- The digits behind the point can be gathered without a check. -/
  fraction : gather (n.kept scale) = .ok (valueOf (n.kept scale))
  /-- There is a power of ten for the places that they do not fill. -/
  places : powersOfTen[scale - (n.kept scale).length]? =
    some (10 ^ (scale - (n.kept scale).length))
  /-- Nor does their product with it need a check. -/
  units : FitsWord (n.keptUnits scale)
  /-- Checked steps fail only where the magnitude has too many digits. -/
  magnitude : n.gatherMagnitude scale = checkDigits (n.magnitudeAt scale)
  /-- A magnitude that has passed can change its sign. -/
  opposite : ∀ m, checkDigits (n.magnitudeAt scale) = .ok m → FitsWord (-m)

theorem magnitudeAt_eq (n : Numeral) (scale : Nat) :
    n.magnitudeAt scale = valueOf n.integral * 10 ^ scale + n.keptUnits scale := rfl

/-- Intermediate numbers are no larger than the magnitude, so that it decides alone. -/
theorem gatherMagnitude_eq (n : Numeral) (scale : Nat) :
    n.gatherMagnitude scale = checkDigits (n.magnitudeAt scale) := by
  have overflow : ∀ x y : Int, 0 ≤ x → x ≤ y → ¬FitsWord x → checkDigits y = .error .overflow := by
    intro x y nonneg hle large
    refine if_neg fun small => large ?_
    have := small.fitsWord
    unfold FitsWord at this ⊢
    omega
  have units : (0 : Int) ≤ n.keptUnits scale := Nat.cast_nonneg _
  have integral : (0 : Int) ≤ valueOf n.integral := Nat.cast_nonneg _
  have hpower := ten_pow_pos scale
  -- The checks are left out one by one, the last one first.
  have sum : ∀ whole : Int, 0 ≤ whole →
      (checkWord (whole + n.keptUnits scale) >>= checkDigits) =
        checkDigits (whole + n.keptUnits scale) :=
    fun whole nonneg => checkWord_bind (overflow _ _ (by omega) le_rfl)
  have product : ∀ i : Int, 0 ≤ i →
      (checkWord (i * 10 ^ scale) >>= fun whole =>
        checkWord (whole + n.keptUnits scale) >>= checkDigits) =
          checkDigits (i * 10 ^ scale + n.keptUnits scale) := by
    intro i nonneg
    have nonneg : 0 ≤ i * 10 ^ scale := Int.mul_nonneg nonneg hpower.le
    rw [← sum _ nonneg]
    refine checkWord_bind fun large => ?_
    rw [sum _ nonneg]
    exact overflow _ _ nonneg (by omega) large
  have hcast : (n.magnitudeAt scale : Int) =
      valueOf n.integral * 10 ^ scale + n.keptUnits scale := by
    rw [magnitudeAt_eq]
    push_cast
    rfl
  rw [gatherMagnitude, gather_eq, hcast, ← product _ integral]
  refine checkWord_bind fun large => ?_
  rw [product _ integral]
  have := le_mul_of_one_le_right integral hpower
  exact overflow _ _ integral (by omega) large

/-- The digits that a scale shows stand for less than one. -/
theorem keptUnits_lt {n : Numeral} (hn : n.WellFormed) (scale : Nat) :
    n.keptUnits scale < 10 ^ scale := by
  have digits : ∀ c ∈ n.kept scale, c.isDigit = true :=
    fun c hc => hn.fraction c (List.mem_of_mem_take hc)
  have length : (n.kept scale).length ≤ scale := List.length_take_le _ _
  calc n.keptUnits scale
      < 10 ^ (n.kept scale).length * 10 ^ (scale - (n.kept scale).length) :=
        Nat.mul_lt_mul_of_pos_right (valueOf_lt digits) (Nat.pow_pos (by decide))
    _ = 10 ^ scale := by rw [← Nat.pow_add, Nat.add_sub_cancel' length]

/-- **No step on words goes wrong**: what is not checked fits, and what is checked fails only where
the magnitude has more than eighteen digits. -/
theorem stepsFit {n : Numeral} (hn : n.WellFormed) (scale : Scale) : n.StepsFit scale.1 := by
  have below : n.keptUnits scale.1 < 10 ^ scale.1 := keptUnits_lt hn scale.1
  have power : FitsWord (10 ^ scale.1) := fitsWord_ten_pow scale.2
  have units : FitsWord (n.keptUnits scale.1) := by
    have hcast : ((10 ^ scale.1 : Nat) : Int) = 10 ^ scale.1 := by push_cast; rfl
    unfold FitsWord at power ⊢
    omega
  have gathered : FitsWord (valueOf (n.kept scale.1)) := by
    have hle : valueOf (n.kept scale.1) ≤ n.keptUnits scale.1 :=
      Nat.le_mul_of_pos_right _ (Nat.pow_pos (by decide))
    unfold FitsWord at units ⊢
    omega
  exact {
    digits := by
      intro c hc
      have digit : c.isDigit = true := by
        rcases List.mem_append.1 hc with hc | hc
        · exact hn.integral c hc
        · exact hn.fraction c (List.mem_of_mem_take hc)
      exact (toNat_of_isDigit digit).1
    fraction := by rw [gather_eq, checkWord_of_fitsWord gathered]
    places := getElem?_powersOfTen ((Nat.sub_le _ _).trans scale.2)
    units
    magnitude := gatherMagnitude_eq n scale.1
    opposite := by
      intro m hm
      obtain ⟨hdigits, rfl⟩ := checkDigits_eq_ok_iff.1 hm
      exact hdigits.neg.fitsWord }

end Numeral

/-! ### Cuts between characters -/

/-- A text can be cut after so many bytes: they are the bytes of its first characters. -/
def IsCut (text : List Char) (bytes : Nat) : Prop :=
  ∃ front back, text = front ++ back ∧ byteLength front = bytes

theorem byteLength_append (front back : List Char) :
    byteLength (front ++ back) = byteLength front + byteLength back := by
  induction front with
  | nil => exact (Nat.zero_add _).symm
  | cons c front ih => exact (congrArg (c.utf8Size + ·) ih).trans (Nat.add_assoc _ _ _).symm

/-- A digit takes one byte. -/
theorem utf8Size_of_isDigit {c : Char} (h : c.isDigit = true) : c.utf8Size = 1 := by
  have ascii : c.val ≤ 0x7F := by
    rw [UInt32.le_iff_toNat_le]
    exact (Numeral.toNat_of_isDigit h).2.trans (by decide)
  simp [Char.utf8Size, ascii]

theorem byteLength_of_isDigit {digits : List Char} (h : ∀ c ∈ digits, c.isDigit = true) :
    byteLength digits = digits.length := by
  induction digits with
  | nil => rfl
  | cons c digits ih =>
    obtain ⟨hc, hdigits⟩ := List.forall_mem_cons.1 h
    calc byteLength (c :: digits) = c.utf8Size + byteLength digits := rfl
      _ = (c :: digits).length := by
        rw [utf8Size_of_isDigit hc, ih hdigits, List.length_cons, Nat.add_comm]

namespace Numeral

/-- The reader cuts a text, once it is trimmed, between its characters. -/
structure CutsFit (text : List Char) (scale : Nat) : Prop where
  /-- A sign takes one byte. -/
  sign : ∀ c ∈ text.head?, isSign c = true → IsCut text 1
  /-- The point is found between characters. -/
  before : '.' ∈ text → IsCut text (byteLength (beforePoint text))
  /-- It takes one byte. -/
  after : '.' ∈ text → IsCut text (byteLength (beforePoint text) + 1)
  /-- What follows it is as long as the text without what comes before. -/
  rest : '.' ∈ text →
    byteLength (beforePoint text) + 1 + byteLength (afterPoint text) = byteLength text
  /-- Digits can be cut anywhere. -/
  kept : ∀ digits : List Char, (∀ c ∈ digits, c.isDigit = true) →
    IsCut digits (min (byteLength digits) scale)

/-- A text with a point is what comes before it, the point, and what follows. -/
theorem eq_beforePoint_append {text : List Char} (h : '.' ∈ text) :
    text = beforePoint text ++ '.' :: afterPoint text := by
  obtain ⟨fraction, hfraction, htext⟩ := exists_fractionText text
  generalize afterPoint text = digits at hfraction ⊢
  cases hfraction with
  | point => exact htext
  | none =>
    rw [List.append_nil] at htext
    rw [htext] at h
    have := List.all_eq_true.1 (List.all_takeWhile (p := (· ≠ '.')) (l := text)) '.' h
    simp at this

/-- **No cut goes through a character**, whatever the text is. -/
theorem cutsFit (text : List Char) (scale : Nat) : CutsFit text scale where
  sign c hc hsign := by
    cases text with
    | nil => cases hc
    | cons d text =>
      obtain rfl : d = c := by simpa using hc
      refine ⟨[d], text, rfl, ?_⟩
      rcases (by simpa [isSign] using hsign : d = '-' ∨ d = '+') with rfl | rfl <;> rfl
  before h := ⟨_, _, eq_beforePoint_append h, rfl⟩
  after h := by
    refine ⟨beforePoint text ++ ['.'], afterPoint text, ?_, byteLength_append _ _⟩
    rw [List.append_assoc]
    exact eq_beforePoint_append h
  rest h := by
    conv_rhs => rw [eq_beforePoint_append h, byteLength_append]
    exact Nat.add_assoc _ _ _
  kept digits hdigits := by
    refine ⟨digits.take scale, digits.drop scale, (List.take_append_drop _ _).symm, ?_⟩
    rw [byteLength_of_isDigit fun c hc => hdigits c (List.mem_of_mem_take hc),
      byteLength_of_isDigit hdigits, List.length_take, Nat.min_comm]

end Numeral

end DecimalMoney
