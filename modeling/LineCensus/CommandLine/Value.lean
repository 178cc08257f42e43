import LineCensus.SortOrder

/-!
# `CommandLine.Value` — the values of options

## Contents

* `parseCount` — a count: an optional plus sign and digits, below `2 ^ 64`;
* `parseBounded`, `parsePositive`, `parseJobs` — a count within bounds, blanks around it allowed;
* `parseMapping` — one extension treated as another, as in `inc=c`.
-/

namespace LineCensus.CommandLine

/-- Why a text is not a count. -/
inductive CountError where
  | empty
  | invalidDigit
  | tooLarge
deriving DecidableEq, Repr

/-- The text of the error. -/
def CountError.message : CountError → String
  | .empty => "cannot parse integer from empty string"
  | .invalidDigit => "invalid digit found in string"
  | .tooLarge => "number too large to fit in target type"

/-- Counts lie below this bound. -/
def countBound : Nat := Nat.pow 2 64

/-- Reads on after digits of the value given. What goes wrong first decides. -/
def parseDigits (value : Nat) : List Char → Except CountError Nat
  | [] => .ok value
  | c :: s =>
    if c.isDigit then
      let next := value * 10 + (c.toNat - '0'.toNat)
      if next < countBound then parseDigits next s else .error .tooLarge
    else .error .invalidDigit

/-- A count: digits, with an optional plus sign before them. -/
def parseCount (text : List Char) : Except CountError Nat :=
  match text with
  | [] => .error .empty
  | ['+'] => .error .invalidDigit
  | '+' :: digits => parseDigits 0 digits
  | digits => parseDigits 0 digits

/-- A count of at least `low` and at most `high`, if that is given. -/
def parseBounded (low : Nat) (high : Option Nat) (text : List Char) : Except String Nat :=
  match parseCount (Text.trim text) with
  | .error e =>
    .error ("Invalid number '" ++ String.ofList text ++ "': " ++ e.message)
  | .ok n =>
    if n < low then
      .error ("Value must be >= " ++ toString low ++ ": " ++ String.ofList text)
    else
      match high with
      | none => .ok n
      | some high =>
        if n > high then
          .error ("Value must be <= " ++ toString high ++ ": " ++ String.ofList text)
        else .ok n

/-- A count of at least one. -/
def parsePositive (text : List Char) : Except String Nat := parseBounded 1 none text

/-- A number of jobs: one to 512. -/
def parseJobs (text : List Char) : Except String Nat := parseBounded 1 (some 512) text

/-- The text without the dots before it. -/
def trimDots (s : List Char) : List Char := s.dropWhile (· == '.')

/-- One extension treated as another: both sides without blanks around them and without dots before
them, neither empty. -/
def parseMapping (text : List Char) : Except String (String × String) :=
  let refusal : Except String (String × String) :=
    .error ("Expected from=to: " ++ String.ofList text)
  match splitOnce? '=' text with
  | none => refusal
  | some (source, target) =>
    let source := trimDots (Text.trim source)
    let target := trimDots (Text.trim target)
    if source.isEmpty || target.isEmpty then refusal
    else .ok (String.ofList source, String.ofList target)

end LineCensus.CommandLine
