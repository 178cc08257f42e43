/-!
# `Yaml.Character` — the characters that YAML tells apart

## Contents

* `isBreak`, `isSeparator`, `startsSeparated` — line breaks, and all that separates words;
* `breakChar`, `dropBreak?` — a line break as it is kept in a text, and one taken from a text;
* `isNameChar` — what names of anchors and tags are made of;
* `isReadable` — what a text may hold at all;
* `isWritable` — what is written as it stands.
-/

namespace LineCensus.Yaml

/-- The line breaks: line feed, carriage return, next line, and the two separators. -/
def isBreak (c : Char) : Bool :=
  c == '\n' || c == '\r' || c == '\u0085' || c == '\u2028' || c == '\u2029'

/-- The line break as it stands in the text of a scalar. -/
def breakChar (c : Char) : Char := if c == '\u2028' || c == '\u2029' then c else '\n'

/-- The line break that a text begins with, and the rest. A carriage return and the line feed after
it are one. -/
def dropBreak? : List Char → Option (Char × List Char)
  | '\r' :: '\n' :: s => some ('\n', s)
  | c :: s => if isBreak c then some (breakChar c, s) else none
  | [] => none

/-- A space or a tab. -/
def isSpaceOrTab (c : Char) : Bool := c == ' ' || c == '\t'

/-- Spaces, tabs and line breaks. -/
def isSeparator (c : Char) : Bool := isSpaceOrTab c || isBreak c

/-- Whether the text is at its end or begins with a separator. -/
def startsSeparated (s : List Char) : Bool := s.head?.all isSeparator

/-- Letters, digits, hyphen and underscore. -/
def isNameChar (c : Char) : Bool := c.isAlphanum || c == '-' || c == '_'

/-- The characters that a text may hold: no controls but tab, line breaks and next line. -/
def isReadable (c : Char) : Bool :=
  c == '\t' || c == '\n' || c == '\r' || (0x20 ≤ c.toNat && c.toNat ≤ 0x7E) || c == '\u0085' ||
    (0xA0 ≤ c.toNat && c.toNat != 0xFFFE && c.toNat != 0xFFFF)

/-- The characters that are written as they stand. The byte order mark, tab, carriage return and
everything above U+FFFF are not among them. -/
def isWritable (c : Char) : Bool :=
  c == '\n' || (0x20 ≤ c.toNat && c.toNat ≤ 0x7E) ||
    (0xA0 ≤ c.toNat && c.toNat < 0xFFFE && c.toNat != 0xFEFF)

end LineCensus.Yaml
