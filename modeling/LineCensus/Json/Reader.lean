import LineCensus.Json

/-!
# `Json.Reader` — reading JSON

The grammar of JSON without extensions: no byte order mark, no comments, no comma before a closing
bracket, no control character in a string, no zero before other digits.

## Contents

* `Json.parse?` — the value that a text holds, and nothing else but white space;
* `Json.readString?`, `Json.readNumber?`, `Json.readValue?` — the parts, each with the rest of the
  text behind it.
-/

namespace LineCensus.Json

/-- The characters allowed between the parts of a value. -/
def isSpace (c : Char) : Bool := c == ' ' || c == '\t' || c == '\n' || c == '\r'

/-- The text without white space before it. -/
def skipSpace (s : List Char) : List Char := s.dropWhile isSpace

/-! ## Strings -/

/-- The value of a digit to base 16. -/
def hexValue? (c : Char) : Option Nat :=
  if '0' ≤ c ∧ c ≤ '9' then some (c.toNat - '0'.toNat)
  else if 'a' ≤ c ∧ c ≤ 'f' then some (c.toNat - 'a'.toNat + 10)
  else if 'A' ≤ c ∧ c ≤ 'F' then some (c.toNat - 'A'.toNat + 10)
  else none

/-- The number of four digits to base 16. -/
def hex4? (a b c d : Char) : Option Nat := do
  let a ← hexValue? a
  let b ← hexValue? b
  let c ← hexValue? c
  let d ← hexValue? d
  return ((a * 16 + b) * 16 + c) * 16 + d

/-- The character that a letter after a backslash stands for. -/
def simpleEscape? (c : Char) : Option Char :=
  if c = '"' ∨ c = '\\' ∨ c = '/' then some c
  else if c = 'b' then some '\x08'
  else if c = 'f' then some '\x0c'
  else if c = 'n' then some '\n'
  else if c = 'r' then some '\r'
  else if c = 't' then some '\t'
  else none

/-- The character of a code unit, unless it is half of a pair. -/
def unitChar? (n : Nat) : Option Char :=
  if 0xD800 ≤ n ∧ n < 0xE000 then none else some (Char.ofNat n)

/-- The character of a pair of code units. -/
def pairChar? (high low : Nat) : Option Char :=
  if 0xD800 ≤ high ∧ high < 0xDC00 ∧ 0xDC00 ≤ low ∧ low < 0xE000 then
    some (Char.ofNat (0x10000 + (high - 0xD800) * 0x400 + (low - 0xDC00)))
  else none

/-- One more character before a text. -/
def consText (c : Option Char) (text : Option (List Char)) : Option (List Char) :=
  match c, text with
  | some c, some t => some (c :: t)
  | _, _ => none

/-- Reads a string after its opening quote: its text, if it has one, and the rest. -/
def readString? : List Char → Option (Option (List Char) × List Char)
  | [] => none
  | '"' :: s => some (some [], s)
  | '\\' :: 'u' :: a :: b :: c :: d :: '\\' :: 'u' :: e :: f :: g :: h :: s =>
    match hex4? a b c d, hex4? e f g h with
    | some high, some low =>
      match pairChar? high low with
      | some c => (readString? s).map fun r => (consText (some c) r.1, r.2)
      | none =>
        (readString? ('\\' :: 'u' :: e :: f :: g :: h :: s)).map fun r =>
          (consText (unitChar? high) r.1, r.2)
    | _, _ => none
  | '\\' :: 'u' :: a :: b :: c :: d :: s =>
    match hex4? a b c d with
    | some unit => (readString? s).map fun r => (consText (unitChar? unit) r.1, r.2)
    | none => none
  | '\\' :: c :: s =>
    match simpleEscape? c with
    | some c => (readString? s).map fun r => (consText (some c) r.1, r.2)
    | none => none
  | c :: s =>
    if c.toNat < 0x20 ∨ c = '\\' then none
    else (readString? s).map fun r => (consText (some c) r.1, r.2)

/-! ## Numbers -/

/-- Reads one digit or more. -/
def readDigits? (s : List Char) : Option (List Char × List Char) :=
  let digits := s.takeWhile Char.isDigit
  if digits.isEmpty then none else some (digits, s.dropWhile Char.isDigit)

/-- Reads the digits before the point: a zero, or digits that do not begin with one. -/
def readWhole? : List Char → Option (List Char × List Char)
  | '0' :: s => if s.head?.any Char.isDigit then none else some (['0'], s)
  | s => readDigits? s

/-- Reads a point and digits, if there is a point. -/
def readFraction? : List Char → Option (List Char × List Char)
  | '.' :: s => (readDigits? s).map fun r => ('.' :: r.1, r.2)
  | s => some ([], s)

/-- Reads an exponent, if there is one. -/
def readExponent? : List Char → Option (List Char × List Char)
  | e :: s =>
    if e = 'e' ∨ e = 'E' then
      match s with
      | sign :: t =>
        if sign = '+' ∨ sign = '-' then
          (readDigits? t).map fun r => (e :: sign :: r.1, r.2)
        else (readDigits? s).map fun r => (e :: r.1, r.2)
      | [] => none
    else some ([], e :: s)
  | [] => some ([], [])

/-- Reads a number. -/
def readNumber? (s : List Char) : Option (List Char × List Char) := do
  let (sign, s) := match s with
    | '-' :: t => (['-'], t)
    | _ => ([], s)
  let (whole, s) ← readWhole? s
  let (fraction, s) ← readFraction? s
  let (exponent, s) ← readExponent? s
  return (sign ++ whole ++ fraction ++ exponent, s)

/-! ## Values -/

mutual

/-- Reads a value; white space before it is skipped. -/
def readValue? (fuel : Nat) (s : List Char) : Option (Json × List Char) :=
  match fuel with
  | 0 => none
  | fuel + 1 =>
    match skipSpace s with
    | 'n' :: 'u' :: 'l' :: 'l' :: s => some (.null, s)
    | 't' :: 'r' :: 'u' :: 'e' :: s => some (.bool true, s)
    | 'f' :: 'a' :: 'l' :: 's' :: 'e' :: s => some (.bool false, s)
    | '"' :: s => (readString? s).map fun r => (.string r.1, r.2)
    | '[' :: s =>
      match skipSpace s with
      | ']' :: s => some (.array [], s)
      | s => (readElements? fuel s).map fun r => (.array r.1, r.2)
    | '\x7b' :: s =>
      match skipSpace s with
      | '\x7d' :: s => some (.object [], s)
      | s => (readMembers? fuel s).map fun r => (.object r.1, r.2)
    | s => (readNumber? s).map fun r => (.number r.1, r.2)

/-- Reads one element or more, and the closing bracket. -/
def readElements? (fuel : Nat) (s : List Char) : Option (List Json × List Char) :=
  match fuel with
  | 0 => none
  | fuel + 1 =>
    match readValue? fuel s with
    | none => none
    | some (v, s) =>
      match skipSpace s with
      | ']' :: s => some ([v], s)
      | ',' :: s => (readElements? fuel s).map fun r => (v :: r.1, r.2)
      | _ => none

/-- Reads one member or more, and the closing brace. -/
def readMembers? (fuel : Nat) (s : List Char) :
    Option (List (Option (List Char) × Json) × List Char) :=
  match fuel with
  | 0 => none
  | fuel + 1 =>
    match skipSpace s with
    | '"' :: s =>
      match readString? s with
      | none => none
      | some (name, s) =>
        match skipSpace s with
        | ':' :: s =>
          match readValue? fuel s with
          | none => none
          | some (v, s) =>
            match skipSpace s with
            | '\x7d' :: s => some ([(name, v)], s)
            | ',' :: s => (readMembers? fuel s).map fun r => ((name, v) :: r.1, r.2)
            | _ => none
        | _ => none
    | _ => none

end

/-- The value that the text holds. Every part of it takes a character at least, so that the length
of the text bounds the steps. -/
def parse? (s : List Char) : Option Json :=
  match readValue? (2 * s.length + 2) s with
  | some (v, rest) => if (skipSpace rest).isEmpty then some v else none
  | none => none

end LineCensus.Json
