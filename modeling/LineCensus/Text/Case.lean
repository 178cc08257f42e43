import LineCensus.Text.Case.Table

/-!
# `Text.Case` — lower case

## Contents

* `lower` — the lower-case form of a text by the full mapping: `İ` becomes two characters, and a
  capital sigma is written `ς` where a word ends;
* `lowerAscii` — only `A` to `Z` change;
* `eqIgnoreAsciiCase` — equality up to the case of ASCII letters.
-/

namespace LineCensus.Text

/-- The code point shifted by the run it lies in, if it lies in one. -/
def CaseRun.shifted? (run : CaseRun) (n : Nat) : Option Nat :=
  if run.first ≤ n ∧ n ≤ run.last ∧ (n - run.first) % run.step = 0 then
    some (n + run.shift).toNat
  else
    none

/-- The lower-case form of a character that stands alone. -/
def lowerChar (c : Char) : List Char :=
  if c.toNat < 0x80 then [c.toLower]
  else if c = 'İ' then ['i', '\u0307']
  else [((lowerRuns.findSome? (·.shifted? c.toNat)).map Char.ofNat).getD c]

/-- Whether a word letter comes first in the text, case-ignorable characters skipped. -/
def startsCased (s : List Char) : Bool :=
  match s.dropWhile caseIgnorableRanges.has with
  | [] => false
  | c :: _ => casedRanges.has c

/-- Lower-cases the rest of a text; `before` is the part already read, last character first. A
sigma ends a word if a letter comes before it and none after it. -/
def lowerFrom (before : List Char) : List Char → List Char
  | [] => []
  | c :: s =>
    let here :=
      if c = 'Σ' then [if startsCased before && !startsCased s then 'ς' else 'σ'] else lowerChar c
    here ++ lowerFrom (c :: before) s

/-- The lower-case form of a text. -/
def lower (s : List Char) : List Char := lowerFrom [] s

/-- The text with `A` to `Z` in lower case. -/
def lowerAscii (s : List Char) : List Char := s.map Char.toLower

/-- Equality up to the case of ASCII letters. -/
def eqIgnoreAsciiCase (s t : List Char) : Bool := lowerAscii s == lowerAscii t

end LineCensus.Text
