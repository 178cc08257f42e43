import LineCensus.Json.Reader
import LineCensus.Yaml.Character

/-!
# `Yaml.Scalar` — reading plain, quoted and block scalars

Each reader takes the text from the first character of the scalar and gives the scalar's text and
the rest. None means that the scalar is malformed.

## Contents

* `Gap` — white space inside a scalar. Within a line it stays; over a line end it is folded: one line
  break becomes a space, of more the first is dropped;
* `atDocumentMark` — whether a line begins a new document;
* `readPlain?`, `readQuoted?`, `readBlock?` — the scalars.
-/

namespace LineCensus.Yaml

/-! ## White space -/

/-- White space: the blanks before the first line break, the line breaks, and where it ends. -/
structure Gap where
  blanks : List Char := []
  breaks : List Char := []
  /-- Whether a line has ended, be it by an escaped line break that does not count. -/
  broken : Bool := false
  /-- The column at its end, once a line has ended. -/
  column : Nat := 0
  /-- The least column of a tab, once a line has ended. -/
  tab : Option Nat := none
deriving Repr

namespace Gap

/-- One more blank. -/
def addBlank (g : Gap) (c : Char) : Gap :=
  if g.broken then
    { g with
      column := g.column + 1
      tab := if c == '\t' then some (g.tab.elim g.column (Nat.min g.column)) else g.tab }
  else { g with blanks := g.blanks ++ [c] }

/-- One more line break. -/
def addBreak (g : Gap) (c : Char) : Gap :=
  { g with blanks := [], breaks := g.breaks ++ [breakChar c], broken := true, column := 0 }

/-- Reads on to the first character that is no white space. -/
def read (g : Gap) : List Char → Gap × List Char
  | '\r' :: '\n' :: s => (g.addBreak '\n').read s
  | c :: s =>
    if isBreak c then (g.addBreak c).read s
    else if isSpaceOrTab c then (g.addBlank c).read s
    else (g, c :: s)
  | [] => (g, [])

/-- What the white space stands for inside a scalar. -/
def text (g : Gap) : List Char :=
  match g.broken, g.breaks with
  | false, _ => g.blanks
  | true, ['\n'] => [' ']
  | true, '\n' :: more => more
  | true, breaks => breaks

end Gap

/-- Whether a line that begins here is the mark of a document's start or end. -/
def atDocumentMark (s : List Char) : Bool :=
  match s with
  | '-' :: '-' :: '-' :: rest => startsSeparated rest
  | '.' :: '.' :: '.' :: rest => startsSeparated rest
  | _ => false

/-! ## Plain scalars -/

/-- The characters that end a plain scalar inside brackets. -/
def isFlowMark (c : Char) : Bool := [',', '[', ']', '\x7b', '\x7d'].contains c

/-- Reads the characters up to white space or a mark that ends a plain scalar. Inside brackets a
colon right before another mark is an error. -/
def readWord? (flow : Bool) : List Char → Option (List Char × List Char)
  | [] => some ([], [])
  | c :: s =>
    if isSeparator c then some ([], c :: s)
    else if flow && c == ':' && s.head?.any (fun d => isFlowMark d || d == '?') then none
    else if (c == ':' && startsSeparated s) || (flow && isFlowMark c) then some ([], c :: s)
    else (readWord? flow s).map fun r => (c :: r.1, r.2)

/-- Reads on after a word: white space and words, as long as they belong to the scalar. The flag says
whether a line has ended behind the last word. -/
def readWords? (flow : Bool) (indent : Int) (fuel : Nat) (s : List Char) :
    Option (List Char × Bool × List Char) :=
  match fuel with
  | 0 => none
  | fuel + 1 =>
    if startsSeparated s then
      let (gap, rest) := Gap.read {} s
      if gap.tab.any fun column => (column : Int) < indent then none
      else if (gap.broken && ((!flow && (gap.column : Int) < indent) ||
          (gap.column == 0 && atDocumentMark rest))) || rest.head? == some '#' then
        some ([], gap.broken, rest)
      else
        match readWord? flow rest with
        | none => none
        | some ([], rest) => some ([], gap.broken, rest)
        | some (word, rest) =>
          (readWords? flow indent fuel rest).map fun r => (gap.text ++ word ++ r.1, r.2)
    else some ([], false, s)

/-- Reads a plain scalar; further lines of it stand in the column `indent` at least. -/
def readPlain? (flow : Bool) (indent : Int) (s : List Char) :
    Option (List Char × Bool × List Char) :=
  match readWord? flow s with
  | none => none
  | some (word, rest) =>
    (readWords? flow indent (s.length + 1) rest).map fun r => (word ++ r.1, r.2)

/-! ## Quoted scalars -/

/-- The number of digits to base 16 behind a letter. -/
def escapeLength? (c : Char) : Option Nat :=
  if c == 'x' then some 2 else if c == 'u' then some 4 else if c == 'U' then some 8 else none

/-- The character that a letter after a backslash stands for. -/
def escapedChar? (c : Char) : Option Char :=
  [('0', '\x00'), ('a', '\x07'), ('b', '\x08'), ('t', '\t'), ('\t', '\t'), ('n', '\n'),
    ('v', '\x0b'), ('f', '\x0c'), ('r', '\r'), ('e', '\x1b'), (' ', ' '), ('"', '"'), ('/', '/'),
    ('\\', '\\'), ('N', '\u0085'), ('_', '\u00a0'), ('L', '\u2028'), ('P', '\u2029')].lookup c

/-- The character of a number to base 16, if there is one. -/
def hexChar? (digits : List Char) : Option Char :=
  (digits.foldlM (fun n c => (Json.hexValue? c).map (n * 16 + ·)) 0).bind fun n =>
    if (0xD800 ≤ n ∧ n ≤ 0xDFFF) ∨ 0x10FFFF < n then none else some (Char.ofNat n)

/-- Reads an escape after its backslash. -/
def readEscape? : List Char → Option (Char × List Char)
  | [] => none
  | c :: s =>
    match escapeLength? c with
    | some n =>
      if s.length < n then none else (hexChar? (s.take n)).map fun d => (d, s.drop n)
    | none => (escapedChar? c).map fun d => (d, s)

/-- Reads a quoted scalar after its opening quote. A line of it is no mark of a document. -/
def readQuotedFrom? (double : Bool) (fuel : Nat) (s : List Char) :
    Option (List Char × List Char) :=
  match fuel, s with
  | 0, _ => none
  | _, [] => none
  | fuel + 1, c :: rest =>
    let prefixed (text rest : List Char) : Option (List Char × List Char) :=
      (readQuotedFrom? double fuel rest).map fun r => (text ++ r.1, r.2)
    if isSeparator c then
      let (gap, rest) := Gap.read {} (c :: rest)
      if gap.broken && gap.column == 0 && atDocumentMark rest then none
      else prefixed gap.text rest
    else if !double && c == '\'' then
      match rest with
      | '\'' :: rest => prefixed ['\''] rest
      | _ => some ([], rest)
    else if double && c == '"' then some ([], rest)
    else if double && c == '\\' then
      match dropBreak? rest with
      | some (_, rest) =>
        let (gap, rest) := Gap.read { broken := true } rest
        if gap.column == 0 && atDocumentMark rest then none else prefixed gap.breaks rest
      | none =>
        match readEscape? rest with
        | some (d, rest) => prefixed [d] rest
        | none => none
    else prefixed [c] rest

/-- Reads a quoted scalar after its opening quote. -/
def readQuoted? (double : Bool) (s : List Char) : Option (List Char × List Char) :=
  readQuotedFrom? double (s.length + 1) s

/-! ## Block scalars -/

/-- What happens to the line breaks at the end of a block scalar. -/
inductive Chomping where
  | strip
  | clip
  | keep
deriving DecidableEq, Repr

/-- Reads a mark of chomping, if there is one. -/
def readChomping : List Char → Chomping × List Char
  | '+' :: s => (.keep, s)
  | '-' :: s => (.strip, s)
  | s => (.clip, s)

/-- Reads a mark of indentation, if there is one; zero is not allowed. -/
def readIndentation? : List Char → Option (Option Nat × List Char)
  | c :: s =>
    if c == '0' then none
    else if c.isDigit then some (some (c.toNat - '0'.toNat), s)
    else some (none, c :: s)
  | [] => some (none, [])

/-- The text behind a comment, if there is one. -/
def dropComment (s : List Char) : List Char :=
  if s.head? == some '#' then s.dropWhile (!isBreak ·) else s

/-- Reads blanks, a comment and the end of the line. -/
def readLineEnd? (s : List Char) : Option (List Char) :=
  match dropComment (s.dropWhile isSpaceOrTab) with
  | [] => some []
  | rest => (dropBreak? rest).map Prod.snd

/-- The lines without content before a line with some. -/
structure Margin where
  breaks : List Char
  /-- The widest indentation seen. -/
  widest : Nat
  /-- The column of what follows. -/
  column : Nat

/-- Reads lines without content, and the indentation of the line that follows, which is cut off at
the given column if there is one. No tab may stand in it. -/
def readMargin? (indent : Option Nat) (m : Margin) : List Char → Option (Margin × List Char)
  | ' ' :: s =>
    if indent.all (m.column < ·) then
      readMargin? indent { m with column := m.column + 1 } s
    else some ({ m with widest := m.widest.max m.column }, ' ' :: s)
  | '\t' :: s =>
    if indent.all (m.column < ·) then none
    else some ({ m with widest := m.widest.max m.column }, '\t' :: s)
  | '\r' :: '\n' :: s => readMargin? indent ⟨m.breaks ++ ['\n'], m.widest.max m.column, 0⟩ s
  | c :: s =>
    if isBreak c then readMargin? indent ⟨m.breaks ++ [breakChar c], m.widest.max m.column, 0⟩ s
    else some ({ m with widest := m.widest.max m.column }, c :: s)
  | [] => some ({ m with widest := m.widest.max m.column }, [])

/-- A block scalar read so far: its text without the last line break, that line break, the empty
lines behind it, and whether the last line began with a blank. -/
structure BlockText where
  text : List Char := []
  lineBreak : List Char := []
  empty : List Char := []
  blank : Bool := false

/-- One more line. If lines are folded, the line break between two that do not begin with a blank
becomes a space, or is dropped if empty lines stand between. -/
def BlockText.add (b : BlockText) (folded : Bool) (line : List Char) : List Char :=
  let joint :=
    if folded && b.lineBreak == ['\n'] && !b.blank && !line.head?.any isSpaceOrTab then
      (if b.empty.isEmpty then [' '] else [])
    else b.lineBreak
  b.text ++ joint ++ b.empty ++ line

/-- Reads the lines of a block scalar that stand in the column. -/
def readBlockLines? (folded : Bool) (indent fuel : Nat) (b : BlockText) (column : Nat)
    (s : List Char) : Option (BlockText × List Char) :=
  match fuel with
  | 0 => none
  | fuel + 1 =>
    if s.isEmpty || column != indent then some (b, s)
    else
      let line := s.takeWhile (!isBreak ·)
      let (lineBreak, rest) :=
        match dropBreak? (s.dropWhile (!isBreak ·)) with
        | some (c, rest) => ([c], rest)
        | none => ([], [])
      match readMargin? (some indent) ⟨[], 0, 0⟩ rest with
      | none => none
      | some (margin, rest) =>
        readBlockLines? folded indent fuel
          ⟨b.add folded line, lineBreak, margin.breaks, line.head?.any isSpaceOrTab⟩ margin.column
          rest

/-- Reads a block scalar after its mark, inside a block whose lines stand in the column `parent`. -/
def readBlock? (folded : Bool) (parent : Int) (s : List Char) : Option (List Char × List Char) := do
  let (chomping, s) := readChomping s
  let (mark, s) ← readIndentation? s
  let (chomping, s) := if chomping = .clip then readChomping s else (chomping, s)
  let s ← readLineEnd? s
  let (margin, s) ← readMargin? (mark.map fun n => ((max parent 0) + n).toNat) ⟨[], 0, 0⟩ s
  let indent :=
    match mark with
    | some n => (max parent 0 + n).toNat
    | none => max margin.widest (max (parent + 1) 1).toNat
  let (b, s) ← readBlockLines? folded indent (s.length + 1) ⟨[], [], margin.breaks, false⟩
    margin.column s
  let tail :=
    match chomping with
    | .strip => []
    | .clip => b.lineBreak
    | .keep => b.lineBreak ++ b.empty
  return (b.text ++ tail, s)

end LineCensus.Yaml
