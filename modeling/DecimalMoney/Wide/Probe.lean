import DecimalMoney.Wide.Backend

/-!
# Probing a backend

Before a backend is trusted it is compared with another one on a fixed sample: eight triples that
have gone wrong in one way or another, and 256 triples from a generator of pseudo-random words.

## Main definitions

* `DecimalMoney.Wide.Generator` : the generator of pseudo-random words.
* `DecimalMoney.Wide.sample` : the triples of the probe.
* `DecimalMoney.Wide.probe` : the first triple on which two backends disagree.

## Main results

* `DecimalMoney.Wide.probe_self` : a backend agrees with itself.
-/

namespace DecimalMoney.Wide

/-- Operands of `a * b / d`. -/
structure Triple where
  a : UInt64
  b : UInt64
  d : UInt64
  deriving DecidableEq, Repr

/-- The state of a generator of pseudo-random words, which is also the word last generated. -/
structure Generator where
  word : UInt64
  deriving DecidableEq, Repr

namespace Generator

/-- The state that a sample starts from. -/
def seed : Generator := ⟨0x9E3779B97F4A7C15⟩

/-- The next word: three shifts, each folded in by exclusive or. -/
def next (g : Generator) : Generator :=
  let x := g.word ^^^ (g.word <<< 13)
  let y := x ^^^ (x >>> 7)
  ⟨y ^^^ (y <<< 17)⟩

/-- A triple from the next five words.  The second and third operand are shifted by random amounts,
so that short operands occur as well; the divisor is at least one. -/
def triple (g : Generator) : Triple × Generator :=
  let a := g.next
  let b := a.next
  let bShift := b.next
  let d := bShift.next
  let dShift := d.next
  let divisor := d.word >>> (dShift.word % 64)
  (⟨a.word, b.word >>> (bShift.word % 64), if divisor = 0 then 1 else divisor⟩, dShift)

/-- The next `n` triples. -/
def triples : Nat → Generator → List Triple
  | 0, _ => []
  | n + 1, g => g.triple.1 :: triples n g.triple.2

theorem length_triples : (n : Nat) → (g : Generator) → (triples n g).length = n
  | 0, _ => rfl
  | n + 1, g => by simp [triples, length_triples n]

end Generator

/-- Triples at the edges of the narrow product, of the single-word product and of the quotient. -/
def edgeTriples : List Triple := [
  ⟨0, 0, 1⟩,
  ⟨1, 1, 1⟩,
  ⟨1999, 1000, 1190⟩,
  ⟨999999999999999999, 999999999999999999, 1000000000000000000⟩,
  ⟨18446744073709551615, 18446744073709551615, 18446744073709551615⟩,
  ⟨18446744073709551615, 18446744073709551614, 18446744073709551615⟩,
  ⟨2147483648, 2147483648, 3⟩,
  ⟨15777333234567321, 123456789, 987654321⟩]

/-- The triples of the probe. -/
def sample : List Triple := edgeTriples ++ Generator.triples 256 .seed

/-- The first triple of the sample on which the candidate does not do what the reference does. -/
def probe (candidate reference : ProductDivision) : Option Triple :=
  sample.find? fun t => candidate t.a t.b t.d != reference t.a t.b t.d

/-- A backend agrees with itself. -/
theorem probe_self (backend : ProductDivision) : probe backend backend = none := by
  simp [probe]

/-- A triple that a probe reports is one on which both backends differ. -/
theorem ne_of_probe_eq_some {candidate reference : ProductDivision} {t : Triple}
    (h : probe candidate reference = some t) :
    candidate t.a t.b t.d ≠ reference t.a t.b t.d := by
  simpa using List.find?_some h

end DecimalMoney.Wide
