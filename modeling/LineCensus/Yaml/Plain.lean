import LineCensus.Decimal.Binary

/-!
# `Yaml.Plain` — what a plain scalar reads as

A scalar without quotes is a text only if it is none of the other things.

## Contents

* `isNullWord`, `isBoolWord` — the words for nothing and for truth values;
* `isInteger` — whole numbers to base 10, 16, 8 or 2 that 128 bits can hold;
* `isReal` — decimals in the range of doubles, and the words for infinity and for no number;
* `isPaddedNumber` — digits with a zero before them, which are a text but look like a number;
* `readsAsText` — none of these.
-/

namespace LineCensus.Yaml

/-- The words for nothing. -/
def isNullWord (s : List Char) : Bool :=
  ["null", "Null", "NULL", "~"].any (·.toList == s)

/-- The words for truth values. -/
def isBoolWord (s : List Char) : Bool :=
  ["true", "True", "TRUE", "false", "False", "FALSE"].any (·.toList == s)

/-- Whether the character is a sign. -/
def isSign (c : Char) : Bool := c == '+' || c == '-'

/-- The text without one sign before it. -/
def unsigned (s : List Char) : List Char := if s.head?.any isSign then s.tail else s

/-- A zero before other digits, with or without a sign. -/
def isPaddedNumber (s : List Char) : Bool :=
  match unsigned s with
  | '0' :: rest => !rest.isEmpty && rest.all Char.isDigit
  | _ => false

/-! ## Whole numbers -/

/-- The value of a digit to a base of at most 16. -/
def digitValue? (base : Nat) (c : Char) : Option Nat :=
  let value :=
    if c.isDigit then c.toNat - '0'.toNat
    else if 'a' ≤ c ∧ c ≤ 'f' then c.toNat - 'a'.toNat + 10
    else if 'A' ≤ c ∧ c ≤ 'F' then c.toNat - 'A'.toNat + 10
    else 16
  if value < base then some value else none

/-- The value of one digit or more. -/
def natOfDigits? (base : Nat) (s : List Char) : Option Nat :=
  if s.isEmpty then none
  else s.foldlM (fun value c => (digitValue? base c).map (value * base + ·)) 0

/-- The value of digits behind the mark of their base. -/
def magnitude? : List Char → Option Nat
  | '0' :: 'x' :: s => natOfDigits? 16 s
  | '0' :: 'o' :: s => natOfDigits? 8 s
  | '0' :: 'b' :: s => natOfDigits? 2 s
  | s => natOfDigits? 10 s

/-- Whole numbers from `-2 ^ 127` to `2 ^ 128 - 1`. -/
def isInteger (s : List Char) : Bool :=
  !isPaddedNumber s &&
    (magnitude? (unsigned s)).any fun n =>
      n ≤ (if s.head? == some '-' then Nat.pow 2 127 else Nat.pow 2 128 - 1)

/-! ## Decimals -/

/-- Whether `m * 10 ^ e` is nearer to some double than to the first power of two beyond them. A
number of fewer than 309 digits before the point is, one of more than 309 is not. -/
def isFinite (m : Nat) (e : Int) : Bool :=
  let digits : Int := (Nat.toDigits 10 m).length + e
  if m = 0 ∨ digits ≤ 308 then true
  else if 309 < digits then false
  else
    let s := Decimal.scaled 10 m 1 e
    s.1 < (Nat.pow 2 1024 - Nat.pow 2 970) * s.2

/-- The exponent that a text is: nothing, or a letter, an optional sign and digits. -/
def exponent? : List Char → Option Int
  | [] => some 0
  | c :: s =>
    if c == 'e' || c == 'E' then
      (natOfDigits? 10 (unsigned s)).map fun n => if s.head? == some '-' then -(n : Int) else n
    else none

/-- Decimals that are finite: digits with at most one point among them, and an exponent. -/
def isFiniteDecimal (s : List Char) : Bool :=
  let whole := s.takeWhile Char.isDigit
  let rest := s.dropWhile Char.isDigit
  let (fraction, rest) :=
    match rest with
    | '.' :: t => (t.takeWhile Char.isDigit, t.dropWhile Char.isDigit)
    | t => ([], t)
  match natOfDigits? 10 (whole ++ fraction), exponent? rest with
  | some m, some e => isFinite m (e - fraction.length)
  | _, _ => false

/-- Decimals and the words that stand for infinity and for no number. -/
def isReal (s : List Char) : Bool :=
  [".inf", ".Inf", ".INF"].any (·.toList == unsigned s) ||
    [".nan", ".NaN", ".NAN"].any (·.toList == s) || isFiniteDecimal (unsigned s)

/-! ## Texts -/

/-- Whether a plain scalar reads as a text and does not look like a number. -/
def readsAsText (s : List Char) : Bool :=
  !(s.isEmpty || isNullWord s || isBoolWord s || isPaddedNumber s || isInteger s || isReal s)

end LineCensus.Yaml
