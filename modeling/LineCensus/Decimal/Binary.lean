/-!
# `Decimal.Binary` — binary numbers of 53 digits

The numbers that a double can hold, as far as counts and their averages need them: no sign, no
infinity, and no bound on the exponent.

## Contents

* `Binary` — significand and exponent;
* `roundDiv` — a quotient rounded to the nearest whole number, ties to the even one;
* `Binary.ofRatio`, `Binary.ofNat`, `Binary.div` — the nearest number to a ratio.
-/

namespace LineCensus.Decimal

/-- The number `significand * 2 ^ exponent`. -/
structure Binary where
  significand : Nat
  exponent : Int
deriving DecidableEq, Repr

/-- The whole number nearest to `num / den`; of two, the even one. -/
def roundDiv (num den : Nat) : Nat :=
  let q := num / den
  let r := num % den
  if 2 * r > den ∨ (2 * r = den ∧ q % 2 = 1) then q + 1 else q

/-- A ratio times a power of a base, as a ratio. -/
def scaled (base num den : Nat) (e : Int) : Nat × Nat :=
  if 0 ≤ e then (num * base.pow e.toNat, den) else (num, den * base.pow (-e).toNat)

namespace Binary

/-- The number of binary digits of a significand. -/
def digits : Nat := 53

/-- The value as a ratio of whole numbers. -/
def ratio (b : Binary) : Nat × Nat := scaled 2 b.significand 1 b.exponent

/-- The nearest number to a ratio, by the exponent that leaves 53 digits before the point. The
exponent is first estimated from the lengths of both numbers, which is at most one too large. -/
def ofRatio (num den : Nat) : Binary :=
  if num = 0 ∨ den = 0 then ⟨0, 0⟩
  else
    let guess : Int := (num.log2 : Int) - den.log2 - (digits - 1)
    let whole := fun e : Int => let s := scaled 2 num den (-e); s.1 / s.2
    let e := if whole guess < Nat.pow 2 (digits - 1) then guess - 1 else guess
    let s := scaled 2 num den (-e)
    let m := roundDiv s.1 s.2
    if m = Nat.pow 2 digits then ⟨Nat.pow 2 (digits - 1), e + 1⟩ else ⟨m, e⟩

/-- The nearest number to a whole number. -/
def ofNat (n : Nat) : Binary := ofRatio n 1

/-- The nearest number to a quotient; zero if the divisor is. -/
def div (a b : Binary) : Binary :=
  ofRatio (a.ratio.1 * b.ratio.2) (a.ratio.2 * b.ratio.1)

end Binary

end LineCensus.Decimal
