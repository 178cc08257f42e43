import LineCensus.Decimal.Binary

/-!
# `Decimal.Text` — binary numbers written to base ten

## Contents

* `Digits`, `shortest` — the fewest digits that read back as the same number, and of those the
  nearest to it;
* `Spelling`, `Spelling.write` — how such digits are laid out;
* `fixed` — the exact value rounded to a number of places, ties to the even neighbour.
-/

namespace LineCensus.Decimal

/-- The number `digits * 10 ^ exponent`. -/
structure Digits where
  digits : Nat
  exponent : Int
deriving DecidableEq, Repr

/-- Whether `a / b` is below `c / d`. -/
def below (a c : Nat × Nat) : Bool := a.1 * c.2 < c.1 * a.2

/-- Whether the number nearest to the decimal is the given one: the decimal lies between the
middles to both neighbours, the middles included if the significand is even. The gap below a power
of two is half as wide. -/
def readsBack (b : Binary) (d : Digits) : Bool :=
  let value := scaled 10 d.digits 1 d.exponent
  let down := if b.significand = Nat.pow 2 (Binary.digits - 1) then 1 else 2
  let low := scaled 2 (4 * b.significand - down) 1 (b.exponent - 2)
  let high := scaled 2 (4 * b.significand + 2) 1 (b.exponent - 2)
  if b.significand % 2 = 0 then !below value low && !below high value
  else below low value && below value high

/-- The distance from the number, as a ratio. -/
def distance (b : Binary) (d : Digits) : Nat × Nat :=
  let x := b.ratio
  let y := scaled 10 d.digits 1 d.exponent
  (x.1 * y.2 - y.1 * x.2 + (y.1 * x.2 - x.1 * y.2), x.2 * y.2)

/-- The decimal on the grid `10 ^ e` that reads back, the nearer one of two. -/
def onGrid? (b : Binary) (e : Int) : Option Digits :=
  let s := scaled 10 b.ratio.1 b.ratio.2 (-e)
  let floor : Digits := ⟨s.1 / s.2, e⟩
  let next : Digits := ⟨s.1 / s.2 + 1, e⟩
  if readsBack b floor && !below (distance b next) (distance b floor) then some floor
  else if readsBack b next then some next
  else if readsBack b floor then some floor
  else none

/-- The number of decimal digits of a whole number. -/
def decimalLength (n : Nat) : Nat := (Nat.toDigits 10 n).length

/-- The exponent of the first digit of the number, or one less. -/
def leadingExponent (b : Binary) : Int :=
  let r := b.ratio
  if r.1 ≥ r.2 then (decimalLength (r.1 / r.2) : Int) - 1
  else -(decimalLength (r.2 / r.1) : Int)

/-- The fewest digits that read back; seventeen always do. -/
def shortest (b : Binary) : Digits :=
  if b.significand = 0 then ⟨0, 0⟩
  else
    ((List.range 20).findSome? fun (k : Nat) => onGrid? b (leadingExponent b + 1 - k)).getD ⟨0, 0⟩

/-! ## Layout -/

/-- How the fewest digits are laid out. -/
structure Spelling where
  /-- The exponents of the first digit for which all digits are written out around a point. -/
  plainFrom : Int
  plainBelow : Int
  /-- What stands before an exponent that is not negative. -/
  exponentPlus : List Char
deriving Repr

/-- The digits of a whole number. -/
def natText (n : Nat) : List Char := Nat.toDigits 10 n

/-- An exponent with its sign. -/
def exponentText (plus : List Char) (e : Int) : List Char :=
  if e < 0 then '-' :: natText (-e).toNat else plus ++ natText e.toNat

/-- The text of digits: always with a point, unless an exponent is written. -/
def Spelling.write (s : Spelling) (d : Digits) : List Char :=
  let text := natText d.digits
  let first : Int := d.exponent + (text.length - 1 : Nat)
  if d.digits = 0 then ['0', '.', '0']
  else if s.plainFrom ≤ first ∧ first < s.plainBelow then
    if 0 ≤ d.exponent then text ++ List.replicate d.exponent.toNat '0' ++ ['.', '0']
    else if first < 0 then
      ['0', '.'] ++ List.replicate (-first - 1).toNat '0' ++ text
    else text.take (first + 1).toNat ++ '.' :: text.drop (first + 1).toNat
  else
    match text with
    | c :: rest =>
      (if rest.isEmpty then [c] else c :: '.' :: rest) ++
        'e' :: exponentText s.exponentPlus first
    | [] => []

/-! ## A fixed number of places -/

/-- The exact value rounded to some places after the point. -/
def fixed (places : Nat) (b : Binary) : List Char :=
  let r := b.ratio
  let text := natText (roundDiv (r.1 * Nat.pow 10 places) r.2)
  let padded := List.replicate (places + 1 - text.length) '0' ++ text
  let whole := padded.length - places
  padded.take whole ++ (if places = 0 then [] else '.' :: padded.drop whole)

end LineCensus.Decimal
