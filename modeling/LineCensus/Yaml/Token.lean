import LineCensus.Yaml.Tag

/-!
# `Yaml.Token` — the tokens of a YAML text

Indentation becomes tokens: a block collection has a token at its start and one at its end. A scalar
is known to be a key only when a colon follows it on the same line; the tokens that say so are then
put in before it.

## Contents

* `Token` — the tokens;
* `Cursor` — a place in the text, with line and column;
* `PendingKey`, `Scanner` — what the reading of a token depends on;
* `Token.scan?` — all tokens of a text, none if it is malformed.
-/

namespace LineCensus.Yaml

/-- A token. -/
inductive Token where
  | directive (d : Directive)
  | documentStart
  | documentEnd
  | blockSequenceStart
  | blockMappingStart
  | blockEnd
  | flowSequenceStart
  | flowSequenceEnd
  | flowMappingStart
  | flowMappingEnd
  | blockEntry
  | flowEntry
  | key
  | value
  | anchor (name : List Char)
  /-- A reference to an anchor. -/
  | reference (name : List Char)
  | tag (t : Tag)
  | scalar (plain : Bool) (text : List Char)
deriving DecidableEq, Repr

/-! ## Places -/

/-- A place in a text: what follows it, its index, line and column. -/
structure Cursor where
  rest : List Char
  index : Nat := 0
  line : Nat := 0
  column : Nat := 0

namespace Cursor

/-- The place some characters further on. -/
def skip : Nat → Cursor → Cursor
  | 0, c => c
  | n + 1, c =>
    match c.rest with
    | [] => c
    | d :: rest =>
      if isBreak d && !(d == '\r' && rest.head? == some '\n') then
        skip n ⟨rest, c.index + 1, c.line + 1, 0⟩
      else skip n ⟨rest, c.index + 1, c.line, c.column + 1⟩

/-- The later place from which on the text is `rest`. -/
def moveTo (c : Cursor) (rest : List Char) : Cursor := c.skip (c.rest.length - rest.length)

end Cursor

/-! ## State -/

/-- A token that may turn out to begin a key. It is required to if nothing else can stand there. -/
structure PendingKey where
  required : Bool
  /-- The number of tokens before it. -/
  tokens : Nat
  index : Nat
  line : Nat
  column : Nat

/-- What the reading of a token depends on. -/
structure Scanner where
  place : Cursor
  /-- The tokens read so far, the last one first. -/
  tokens : List Token := []
  /-- The column of the innermost block collection, and of those around it. -/
  indent : Int := -1
  indents : List Int := []
  /-- The possible key at the innermost level of brackets, and at those around it. -/
  pending : Option PendingKey := none
  outer : List (Option PendingKey) := []
  /-- Whether a key may begin here. -/
  keyAllowed : Bool := true

namespace Scanner

/-- Whether the place is inside brackets. -/
def inFlow (s : Scanner) : Bool := !s.outer.isEmpty

/-- One more token. -/
def emit (s : Scanner) (t : Token) : Scanner := { s with tokens := t :: s.tokens }

/-- A token put in before those that follow the first `n`. -/
def insert (s : Scanner) (n : Nat) (t : Token) : Scanner :=
  let after := s.tokens.length - n
  { s with tokens := s.tokens.take after ++ t :: s.tokens.drop after }

/-- The state some characters further on. -/
def skip (s : Scanner) (n : Nat) : Scanner := { s with place := s.place.skip n }

/-- The state at the place from which on the text is `rest`. -/
def moveTo (s : Scanner) (rest : List Char) : Scanner := { s with place := s.place.moveTo rest }

/-- The state with a key allowed or not. -/
def allowKey (s : Scanner) (allowed : Bool) : Scanner := { s with keyAllowed := allowed }

/-! ## Keys -/

/-- Whether the key can no longer be one: it lies on an earlier line or far behind. -/
def isStale (place : Cursor) (k : PendingKey) : Bool :=
  k.line < place.line || k.index + 1024 < place.index

/-- The pending key unless it is stale; none if it was required to be a key. -/
def fresh? (place : Cursor) : Option PendingKey → Option (Option PendingKey)
  | none => some none
  | some k => if isStale place k then (if k.required then none else some none) else some (some k)

/-- Gives up stale keys at all levels. -/
def dropStale? (s : Scanner) : Option Scanner := do
  let pending ← fresh? s.place s.pending
  let outer ← s.outer.mapM (fresh? s.place)
  return { s with pending := pending, outer := outer }

/-- Gives up the pending key of the innermost level. -/
def dropPending? (s : Scanner) : Option Scanner :=
  if s.pending.any (·.required) then none else some { s with pending := none }

/-- Notes that a key may begin here. -/
def notePending? (s : Scanner) : Option Scanner :=
  if s.keyAllowed then do
    let s ← s.dropPending?
    return { s with
      pending := some {
        required := !s.inFlow && s.indent == s.place.column
        tokens := s.tokens.length
        index := s.place.index
        line := s.place.line
        column := s.place.column } }
  else some s

/-! ## Indentation -/

/-- Opens a block collection in a column to the right of the current one; its first token is put in
before those that follow the first `n`. -/
def openBlock (s : Scanner) (column n : Nat) (t : Token) : Scanner :=
  if !s.inFlow && s.indent < column then
    { s.insert n t with indent := column, indents := s.indent :: s.indents }
  else s

/-- Closes the block collections to the right of a column, given those around the innermost. -/
def closeBlocks (column : Int) : List Int → Scanner → Scanner
  | [], s => s
  | around :: indents, s =>
    if s.indent ≤ column then s
    else closeBlocks column indents { s.emit .blockEnd with indent := around, indents := indents }

/-- Closes the block collections to the right of a column, outside brackets. -/
def unindent (s : Scanner) (column : Int) : Scanner :=
  if s.inFlow then s else closeBlocks column s.indents s

/-! ## White space -/

/-- Skips white space, comments and line ends. Outside brackets a tab is no white space where a key
may begin, and after a line end a key may begin. -/
def skipBlank (fuel : Nat) (s : Scanner) : Scanner :=
  match fuel with
  | 0 => s
  | fuel + 1 =>
    let s := if s.place.column == 0 && s.place.rest.head? == some '\uFEFF' then s.skip 1 else s
    let isSkipped (c : Char) : Bool := c == ' ' || (c == '\t' && (s.inFlow || !s.keyAllowed))
    let rest := dropComment (s.place.rest.dropWhile isSkipped)
    let s := s.moveTo rest
    match dropBreak? rest with
    | some (_, rest) =>
      skipBlank fuel ((s.moveTo rest).allowKey (s.keyAllowed || !s.inFlow))
    | none => s

/-! ## Tokens -/

/-- Reads a token that ends all blocks: a directive or a mark of a document. -/
def readTop? (s : Scanner) (t : Token) (rest : List Char) : Option Scanner := do
  let s ← (s.unindent (-1)).dropPending?
  return ((s.allowKey false).moveTo rest).emit t

/-- Reads an opening bracket. -/
def readOpening? (s : Scanner) (t : Token) : Option Scanner := do
  let s ← s.notePending?
  return { (s.skip 1).emit t with
    pending := none, outer := s.pending :: s.outer, keyAllowed := true }

/-- Reads a closing bracket. -/
def readClosing? (s : Scanner) (t : Token) : Option Scanner := do
  let s ← s.dropPending?
  let s := ((s.allowKey false).skip 1).emit t
  match s.outer with
  | [] => return s
  | pending :: outer => return { s with pending := pending, outer := outer }

/-- Reads a comma. -/
def readComma? (s : Scanner) : Option Scanner := do
  let s ← s.dropPending?
  return ((s.allowKey true).skip 1).emit .flowEntry

/-- Opens the collection that a mark in this column belongs to; outside brackets a key must be
allowed there. -/
def enterBlock? (s : Scanner) (t : Token) : Option Scanner :=
  if s.inFlow then some s
  else if s.keyAllowed then some (s.openBlock s.place.column s.tokens.length t)
  else none

/-- Reads a dash. -/
def readDash? (s : Scanner) : Option Scanner := do
  let s ← s.enterBlock? .blockSequenceStart
  let s ← s.dropPending?
  return ((s.allowKey true).skip 1).emit .blockEntry

/-- Reads a question mark. -/
def readKey? (s : Scanner) : Option Scanner := do
  let s ← s.enterBlock? .blockMappingStart
  let s ← s.dropPending?
  return ((s.allowKey (!s.inFlow)).skip 1).emit .key

/-- Reads a colon. If a key is pending, its tokens are put in now. -/
def readValue? (s : Scanner) : Option Scanner := do
  let s ←
    match s.pending with
    | some k =>
      some (({ (s.insert k.tokens .key).openBlock k.column k.tokens .blockMappingStart with
        pending := none }).allowKey false)
    | none => (s.enterBlock? .blockMappingStart).map fun s => s.allowKey (!s.inFlow)
  return (s.skip 1).emit .value

/-- Reads a token that may begin a key. -/
def readContent? (s : Scanner) (token : Option (Token × List Char)) : Option Scanner := do
  let s ← s.notePending?
  let (t, rest) ← token
  return ((s.allowKey false).moveTo rest).emit t

/-- Reads a block scalar. -/
def readBlockScalar? (s : Scanner) (folded : Bool) (text : List Char) : Option Scanner := do
  let s ← s.dropPending?
  let (content, rest) ← readBlock? folded s.indent text
  return ((s.allowKey true).moveTo rest).emit (.scalar false content)

/-- Reads a plain scalar. If lines end behind it, a key may begin there. -/
def readPlainScalar? (s : Scanner) : Option Scanner := do
  let s ← s.notePending?
  let (text, broken, rest) ← readPlain? s.inFlow (s.indent + 1) s.place.rest
  return ((s.allowKey broken).moveTo rest).emit (.scalar true text)

/-- The characters that no plain scalar begins with, unless it is one of three that another
character follows. -/
def isMark (c : Char) : Bool :=
  ['-', '?', ':', ',', '[', ']', '\x7b', '\x7d', '#', '&', '*', '!', '|', '>', '\'', '"', '%', '@',
    '\x60'].contains c

/-- Whether a plain scalar begins with this character before this text. -/
def startsPlain (inFlow : Bool) (c : Char) (rest : List Char) : Bool :=
  !(isSeparator c || isMark c) || (c == '-' && !rest.head?.any isSpaceOrTab) ||
    (!inFlow && (c == '?' || c == ':') && !startsSeparated rest)

/-- Reads the token that begins with this character. -/
def readToken? (s : Scanner) (c : Char) (rest : List Char) : Option Scanner :=
  let atLineStart := s.place.column == 0
  let isIndicator := startsSeparated rest
  if atLineStart && c == '%' then
    (readDirective? rest).bind fun r => s.readTop? (.directive r.1) r.2
  else if atLineStart && atDocumentMark (c :: rest) then
    s.readTop? (if c == '-' then .documentStart else .documentEnd) (rest.drop 2)
  else if c == '[' then s.readOpening? .flowSequenceStart
  else if c == '\x7b' then s.readOpening? .flowMappingStart
  else if c == ']' then s.readClosing? .flowSequenceEnd
  else if c == '\x7d' then s.readClosing? .flowMappingEnd
  else if c == ',' then s.readComma?
  else if c == '-' && isIndicator then s.readDash?
  else if c == '?' && (s.inFlow || isIndicator) then s.readKey?
  else if c == ':' && (s.inFlow || isIndicator) then s.readValue?
  else if c == '*' then s.readContent? ((readAnchor? rest).map fun r => (.reference r.1, r.2))
  else if c == '&' then s.readContent? ((readAnchor? rest).map fun r => (.anchor r.1, r.2))
  else if c == '!' then
    s.readContent? ((readTag? s.inFlow (c :: rest)).map fun r => (.tag r.1, r.2))
  else if (c == '|' || c == '>') && !s.inFlow then s.readBlockScalar? (c == '>') rest
  else if c == '\'' || c == '"' then
    s.readContent? ((readQuoted? (c == '"') rest).map fun r => (.scalar false r.1, r.2))
  else if startsPlain s.inFlow c rest then s.readPlainScalar?
  else none

/-- Reads all tokens. Each takes a character at least, so that the length of the text bounds their
number. -/
def run? (fuel : Nat) (s : Scanner) : Option (List Token) :=
  match fuel with
  | 0 => none
  | fuel + 1 => do
    let s ← (s.skipBlank (s.place.rest.length + 1)).dropStale?
    let s := s.unindent s.place.column
    match s.place.rest with
    | [] =>
      let s ← (s.unindent (-1)).dropPending?
      return s.tokens.reverse
    | c :: rest => (s.readToken? c rest).bind (run? fuel)

end Scanner

/-- The tokens of a text. -/
def Token.scan? (text : List Char) : Option (List Token) :=
  if text.all isReadable then Scanner.run? (text.length + 1) { place := { rest := text } } else none

end LineCensus.Yaml
