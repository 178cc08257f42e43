import LineCensus.Line.Scan
import LineCensus.Text.Lines

/-!
# `Tally` — how many lines of each kind

## Contents

* `Tally`, with `Tally.record`, addition and `Tally.sum`;
* `Tally.ofKinds` — the tally of some lines;
* `countText` — the tally of a text;
* `countBytes` — the tally of a file: bytes that need not be well formed, cut after each line feed
  and decoded piece by piece. Here a carriage return at the end of the last line is dropped too.
-/

namespace LineCensus

/-- The number of lines, in all and of each kind. -/
structure Tally where
  lines : Nat := 0
  code : Nat := 0
  comment : Nat := 0
  blank : Nat := 0
deriving DecidableEq, Repr

namespace Tally

/-- The tally with one more line. -/
def record (t : Tally) : LineKind → Tally
  | .blank => { t with lines := t.lines + 1, blank := t.blank + 1 }
  | .code => { t with lines := t.lines + 1, code := t.code + 1 }
  | .comment => { t with lines := t.lines + 1, comment := t.comment + 1 }

/-- The tally of both together. -/
def add (s t : Tally) : Tally where
  lines := s.lines + t.lines
  code := s.code + t.code
  comment := s.comment + t.comment
  blank := s.blank + t.blank

instance : Add Tally := ⟨add⟩

@[simp] theorem lines_add {s t : Tally} : (s + t).lines = s.lines + t.lines := rfl

@[simp] theorem code_add {s t : Tally} : (s + t).code = s.code + t.code := rfl

@[simp] theorem comment_add {s t : Tally} : (s + t).comment = s.comment + t.comment := rfl

@[simp] theorem blank_add {s t : Tally} : (s + t).blank = s.blank + t.blank := rfl

/-- The tally of all together. -/
def sum (tallies : List Tally) : Tally := tallies.foldl (· + ·) {}

/-- The tally of lines of these kinds. -/
def ofKinds (kinds : List LineKind) : Tally := kinds.foldl record {}

end Tally

/-- The tally of the lines of a text, scanned from a state. -/
def countLines (constructs : List Construct) (opened : Option Opened) (lines : List (List Char)) :
    Tally :=
  Tally.ofKinds (kindsOf constructs opened lines)

/-- The tally of a text. -/
def countText (constructs : List Construct) (text : List Char) : Tally :=
  countLines constructs none (Text.lines text)

/-- The line that a piece of a file holds: decoded, without line feed and carriage return. -/
def lineOfBytes (piece : List UInt8) : List Char :=
  Text.stripLast '\r' (Text.stripLast '\n' (Text.decodeLossy piece))

/-- The tally of the bytes of a file. -/
def countBytes (constructs : List Construct) (bytes : List UInt8) : Tally :=
  countLines constructs none ((Text.terminated 10 bytes).map lineOfBytes)

end LineCensus
