import LineCensus.Json.Reader
import LineCensus.Text.Utf8
import LineCensus.Yaml.Scalar

/-!
# `Yaml.Tag` — reading anchors, tags and directives

## Contents

* `Tag`, `readTag?` — a tag as it is written: a handle and what follows it;
* `readAnchor?` — the name behind `&` or `*`;
* `Directive`, `readDirective?` — a line that begins with a percent sign.

What follows a handle is a sequence of bytes, as escapes in it stand for bytes.
-/

namespace LineCensus.Yaml

/-- A tag: a handle such as `!` or `!e!`, and what follows it. A tag that is written out in full has
no handle. -/
structure Tag where
  handle : List Char
  suffix : List UInt8
deriving DecidableEq, Repr

/-! ## Anchors -/

/-- Reads the name of an anchor. -/
def readAnchor? (s : List Char) : Option (List Char × List Char) :=
  let name := s.takeWhile isNameChar
  let rest := s.dropWhile isNameChar
  let ended := startsSeparated rest ||
    rest.head?.any fun c => ['?', ':', ',', ']', '\x7d', '%', '@', '\x60'].contains c
  if !name.isEmpty && ended then some (name, rest) else none

/-! ## The parts of tags -/

/-- The characters of a tag besides letters, digits, hyphen, underscore and the percent sign; inside
angle brackets there are three more. -/
def isUriMark (verbatim : Bool) (c : Char) : Bool :=
  [';', '/', '?', ':', '@', '&', '=', '+', '$', '.', '!', '~', '*', '\'', '(', ')'].contains c ||
    (verbatim && [',', '[', ']'].contains c)

/-- Reads a byte written as a percent sign and two digits. -/
def readOctet? : List Char → Option (Nat × List Char)
  | '%' :: a :: b :: s => do
    let a ← Json.hexValue? a
    let b ← Json.hexValue? b
    return (a * 16 + b, s)
  | _ => none

/-- Reads so many bytes that continue a character. -/
def readContinuation? : Nat → List Char → Option (List UInt8 × List Char)
  | 0, s => some ([], s)
  | n + 1, s => do
    let (octet, s) ← readOctet? s
    if octet / 64 = 2 then
      let (octets, s) ← readContinuation? n s
      return (UInt8.ofNat octet :: octets, s)
    else none

/-- The number of bytes that follow the first one of a character. -/
def continuationLength? (octet : Nat) : Option Nat :=
  if octet < 0x80 then some 0
  else if octet / 32 = 6 then some 1
  else if octet / 16 = 14 then some 2
  else if octet / 8 = 30 then some 3
  else none

/-- Reads the bytes of a tag up to the first character that cannot be part of it. -/
def readUri? (verbatim : Bool) (fuel : Nat) (s : List Char) : Option (List UInt8 × List Char) :=
  match fuel, s with
  | 0, _ => none
  | _, [] => some ([], [])
  | fuel + 1, c :: rest =>
    if c == '%' then do
      let (octet, rest) ← readOctet? s
      let length ← continuationLength? octet
      let (octets, rest) ← readContinuation? length rest
      let (more, rest) ← readUri? verbatim fuel rest
      return (UInt8.ofNat octet :: octets ++ more, rest)
    else if isNameChar c || isUriMark verbatim c then
      (readUri? verbatim fuel rest).map fun r => (Text.encode [c] ++ r.1, r.2)
    else some ([], c :: rest)

/-- Reads the bytes of a tag, at least one. -/
def readNonemptyUri? (verbatim : Bool) (s : List Char) : Option (List UInt8 × List Char) :=
  match readUri? verbatim (s.length + 1) s with
  | some ([], _) => none
  | r => r

/-- Reads what begins like a handle: an exclamation mark, a name that may be empty, and a second
exclamation mark if there is one. -/
def readHandle? : List Char → Option (List Char × List Char)
  | '!' :: s =>
    let name := s.takeWhile isNameChar
    match s.dropWhile isNameChar with
    | '!' :: rest => some ('!' :: name ++ ['!'], rest)
    | rest => some ('!' :: name, rest)
  | _ => none

/-- Whether the text is a handle with two exclamation marks. -/
def isNamedHandle (handle : List Char) : Bool := 1 < handle.length && handle.getLast? == some '!'

/-! ## Tags -/

/-- Reads a tag without what must follow it. -/
def readTagBody? (s : List Char) : Option (Tag × List Char) :=
  match s with
  | '!' :: '<' :: s => do
    let (suffix, s) ← readNonemptyUri? true s
    match s with
    | '>' :: s => return (⟨[], suffix⟩, s)
    | _ => none
  | _ => do
    let (handle, s) ← readHandle? s
    if isNamedHandle handle then
      let (suffix, s) ← readNonemptyUri? false s
      return (⟨handle, suffix⟩, s)
    else
      let (more, s) ← readUri? false (s.length + 1) s
      let suffix := Text.encode handle.tail ++ more
      if suffix.isEmpty then return (⟨[], Text.encode ['!']⟩, s) else return (⟨['!'], suffix⟩, s)

/-- Reads a tag; white space follows it, or a comma inside brackets. -/
def readTag? (flow : Bool) (s : List Char) : Option (Tag × List Char) := do
  let (tag, s) ← readTagBody? s
  if startsSeparated s || (flow && s.head? == some ',') then return (tag, s) else none

/-! ## Directives -/

/-- What a directive says. -/
inductive Directive where
  | version (major minor : Nat)
  | handle (handle : List Char) (expansion : List UInt8)
deriving DecidableEq, Repr

/-- Reads a number of at most nine digits. -/
def readVersionNumber? (s : List Char) : Option (Nat × List Char) :=
  let digits := s.takeWhile Char.isDigit
  if digits.isEmpty || 9 < digits.length then none
  else
    some (digits.foldl (fun n c => n * 10 + (c.toNat - '0'.toNat)) 0, s.dropWhile Char.isDigit)

/-- Reads what a directive says after its name. -/
def readDirectiveValue? (name s : List Char) : Option (Directive × List Char) :=
  if name == ['Y', 'A', 'M', 'L'] then do
    let (major, s) ← readVersionNumber? (s.dropWhile isSpaceOrTab)
    match s with
    | '.' :: s =>
      let (minor, s) ← readVersionNumber? s
      return (.version major minor, s)
    | _ => none
  else if name == ['T', 'A', 'G'] then do
    let (handle, s) ← readHandle? (s.dropWhile isSpaceOrTab)
    if handle.length = 1 ∨ isNamedHandle handle then
      if s.head?.any isSpaceOrTab then
        let (expansion, s) ← readNonemptyUri? true (s.dropWhile isSpaceOrTab)
        if startsSeparated s then return (.handle handle expansion, s) else none
      else none
    else none
  else none

/-- Reads a directive after its percent sign, to the end of the line. -/
def readDirective? (s : List Char) : Option (Directive × List Char) := do
  let name := s.takeWhile isNameChar
  let s := s.dropWhile isNameChar
  if name.isEmpty || !startsSeparated s then none
  else
    let (directive, s) ← readDirectiveValue? name s
    let s ← readLineEnd? s
    return (directive, s)

end LineCensus.Yaml
