import LineCensus.Path

/-!
# `Glob` — patterns for paths

A pattern is a list of tokens and stands for whole paths, byte by byte. Slashes matter: a star stays
within one step of a path, and only a double star crosses from step to step.

## Contents

* `Glob.Token`, `Glob` — what a pattern is made of;
* `Token.rests`, `restsOfAll`, `restsOfAny` — what may be left of a path behind a token, a sequence
  of tokens, one of several sequences;
* `Glob.accepts` — whether a pattern stands for a path: nothing may be left.
-/

namespace LineCensus

/-- A part of a pattern. -/
inductive Glob.Token where
  | literal (c : Char)
  /-- One byte other than a slash. -/
  | any
  /-- Bytes other than slashes. -/
  | star
  /-- A double star at the start: steps with the slash behind them, or nothing. -/
  | leading
  /-- A double star at the end: a slash and all that follows. -/
  | trailing
  /-- A double star in between: one slash, or two with steps between them. -/
  | between
  /-- A byte of the ranges, or none of them. -/
  | oneOf (negated : Bool) (ranges : List (Char × Char))
  /-- One of several sequences. -/
  | choice (branches : List (List Glob.Token))
deriving Repr

/-- A pattern for paths. -/
structure Glob where
  tokens : List Glob.Token
deriving Repr

namespace Glob

/-! ## Bytes of a class -/

/-- The ranges of bytes of a range of characters. Characters of several bytes give a range from the
last byte of the first to the first byte of the last, and their other bytes alone. -/
def byteRanges (range : Char × Char) : List (UInt8 × UInt8) :=
  let alone := List.map fun b : UInt8 => (b, b)
  let low := Text.encode [range.1]
  let high := Text.encode [range.2]
  if range.1 = range.2 then alone low
  else
    match low.getLast?, high with
    | some a, b :: after => alone low.dropLast ++ (a, b) :: alone after
    | _, _ => []

/-- Whether the byte is in a range. -/
def inRanges (ranges : List (Char × Char)) (b : UInt8) : Bool :=
  ranges.any fun r => (byteRanges r).any fun (low, high) => low ≤ b && b ≤ high

/-! ## What is left -/

/-- What is left behind a first byte of a kind. -/
def restOfByte (p : UInt8 → Bool) : List UInt8 → List (List UInt8)
  | [] => []
  | b :: s => if p b then [s] else []

/-- What is left behind any number of bytes other than slashes. -/
def restsOfStar : List UInt8 → List (List UInt8)
  | [] => [[]]
  | b :: s => (b :: s) :: if b == Path.slash then [] else restsOfStar s

/-- What is left behind any bytes. -/
def restsOfAnything : List UInt8 → List (List UInt8)
  | [] => [[]]
  | b :: s => (b :: s) :: restsOfAnything s

/-- What is left behind a slash. -/
def restOfSlash : List UInt8 → List (List UInt8) := restOfByte (· == Path.slash)

/-- What is left behind any bytes with a slash at their end. -/
def restsOfSteps (s : List UInt8) : List (List UInt8) := (restsOfAnything s).flatMap restOfSlash

/-- What is left behind a sequence of bytes. -/
def restOfBytes (bytes s : List UInt8) : List (List UInt8) :=
  if bytes.isPrefixOf s then [s.drop bytes.length] else []

mutual

/-- Whether the token stands for the empty sequence because nothing is written in its branches. -/
def Token.isVoid : Token → Bool
  | .choice branches => allVoid branches
  | _ => false

/-- Whether nothing is written in the sequence. -/
def isVoidSequence : List Token → Bool
  | [] => true
  | t :: tokens => t.isVoid && isVoidSequence tokens

/-- Whether nothing is written in any of the sequences. -/
def allVoid : List (List Token) → Bool
  | [] => true
  | branch :: branches => isVoidSequence branch && allVoid branches

end

mutual

/-- What may be left of a path behind the token. In a choice, branches with nothing in them do not
count, unless there are no others. -/
def Token.rests : Token → List UInt8 → List (List UInt8)
  | .literal c, s => restOfBytes (Text.encode [c]) s
  | .any, s => restOfByte (· != Path.slash) s
  | .star, s => restsOfStar s
  | .leading, s => s :: restOfSlash s ++ restsOfSteps s
  | .trailing, s => (restOfSlash s).flatMap restsOfAnything
  | .between, s => restOfSlash s ++ (restOfSlash s).flatMap restsOfSteps
  | .oneOf negated ranges, s => restOfByte (fun b => inRanges ranges b != negated) s
  | .choice branches, s => if allVoid branches then [s] else restsOfAny branches s

/-- What may be left behind the tokens, of what was left before them. -/
def restsOfAll : List Token → List (List UInt8) → List (List UInt8)
  | [], rests => rests
  | t :: tokens, rests => restsOfAll tokens (rests.flatMap fun s => t.rests s).eraseDups

/-- What may be left of a path behind one of the sequences that are not void. -/
def restsOfAny : List (List Token) → List UInt8 → List (List UInt8)
  | [], _ => []
  | branch :: branches, s =>
    (if isVoidSequence branch then [] else restsOfAll branch [s]) ++ restsOfAny branches s

end

/-- Whether the pattern stands for the path. A double star alone stands for every path. -/
def accepts (g : Glob) (path : List UInt8) : Bool :=
  match g.tokens with
  | [.leading] => true
  | tokens => (restsOfAll tokens [path]).contains []

end Glob

end LineCensus
