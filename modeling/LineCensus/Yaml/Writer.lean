import LineCensus.Outline
import LineCensus.Yaml.Character
import LineCensus.Yaml.Plain

/-!
# `Yaml.Writer` — outlines written as YAML

## Contents

* `Style.of` — how a text is written: plain if that reads back as the text; as a literal block if it
  has several lines; in single quotes if no character needs an escape; in double quotes otherwise;
* `writeText` — the text of a scalar, to the end of its last line;
* `write` — the lines of an outline. Records stand under their key two columns further in, lists of
  records under theirs in the same column.
-/

namespace LineCensus.Yaml

/-! ## Style -/

/-- How a text is written. -/
inductive Style where
  | plain
  | singleQuoted
  | doubleQuoted
  | literal
deriving DecidableEq, Repr

/-- Whether two neighbours in the text have the two properties. -/
def adjacent (p q : Char → Bool) (s : List Char) : Bool :=
  (s.zip s.tail).any fun pair => p pair.1 && q pair.2

/-- The characters that mean something at the start of a scalar. -/
def isIndicator (c : Char) : Bool :=
  ['#', ',', '[', ']', '\x7b', '\x7d', '&', '*', '!', '|', '>', '\'', '"', '%', '@', '\x60'].contains c

/-- Whether a plain scalar of this text would be read as something else for the marks in it: one
at its start, a colon before a separator or the end, or a number sign after a separator. -/
def hasIndicator (s : List Char) : Bool :=
  ['-', '-', '-'].isPrefixOf s || ['.', '.', '.'].isPrefixOf s || s.head?.any isIndicator ||
    (s.head?.any (fun c => c == '?' || c == '-') && s.tail.head?.all isSeparator) ||
    s.getLast? == some ':' || adjacent (· == ':') isSeparator s || adjacent isSeparator (· == '#') s

/-- Whether only escapes can show the text: it has a character that is not written as it stands, or
a space before a line break. -/
def needsEscape (s : List Char) : Bool := s.any (!isWritable ·) || adjacent (· == ' ') isBreak s

/-- The style of a text. -/
def Style.of (s : List Char) : Style :=
  if s.contains '\n' then
    if needsEscape s || s.getLast? == some ' ' then .doubleQuoted else .literal
  else if needsEscape s || adjacent isBreak (· == ' ') s then .doubleQuoted
  else if readsAsText s && !hasIndicator s && !s.any isBreak && s.head? != some ' ' &&
      s.getLast? != some ' ' then .plain
  else .singleQuoted

/-! ## Scalars -/

/-- Blanks up to a column. -/
def blanks (column : Nat) : List Char := List.replicate column ' '

/-- A number to base 16 in upper case, with at least so many digits. -/
def upperHex (width n : Nat) : List Char :=
  let digits := (Nat.toDigits 16 n).map Char.toUpper
  List.replicate (width - digits.length) '0' ++ digits

/-- A character in double quotes. -/
def escapeChar (c : Char) : List Char :=
  if isWritable c && !isBreak c && c != '"' && c != '\\' then [c]
  else
    '\\' :: match c with
    | '\x00' => ['0']
    | '\x07' => ['a']
    | '\x08' => ['b']
    | '\t' => ['t']
    | '\n' => ['n']
    | '\x0b' => ['v']
    | '\x0c' => ['f']
    | '\r' => ['r']
    | '\x1b' => ['e']
    | '"' => ['"']
    | '\\' => ['\\']
    | '\u0085' => ['N']
    | '\u2028' => ['L']
    | '\u2029' => ['P']
    | c =>
      if c.toNat ≤ 0xFF then 'x' :: upperHex 2 c.toNat
      else if c.toNat ≤ 0xFFFF then 'u' :: upperHex 4 c.toNat
      else 'U' :: upperHex 8 c.toNat

/-- The text with blanks up to a column before each character that begins a line, and each
character written by the function; `fresh` says whether a line begins here. -/
def indented (column : Nat) (show1 : Char → List Char) (fresh : Bool) : List Char → List Char
  | [] => []
  | c :: s =>
    if isBreak c then c :: indented column show1 true s
    else (if fresh then blanks column else []) ++ show1 c ++ indented column show1 false s

/-- The marks of a literal block: the indentation if the first line does not show it, a minus if no
line break ends the text, a plus if more than one does. -/
def blockMarks (s : List Char) : List Char :=
  let indentation := if s.head?.any (fun c => c == ' ' || isBreak c) then ['2'] else []
  let chomping :=
    match s.reverse with
    | [] => ['-']
    | [c] => if isBreak c then ['+'] else ['-']
    | c :: d :: _ => if !isBreak c then ['-'] else if isBreak d then ['+'] else []
  indentation ++ chomping

/-- The text of a scalar whose further lines stand at a column, with its last line ended. -/
def writeText (column : Nat) (s : List Char) : List Char :=
  match Style.of s with
  | .plain => s ++ ['\n']
  | .singleQuoted =>
    let body := indented column (fun c => if c == '\'' then ['\'', '\''] else [c]) false s
    let tail := if s.getLast?.any isBreak then blanks column else []
    '\'' :: body ++ tail ++ ['\'', '\n']
  | .doubleQuoted => '"' :: s.flatMap escapeChar ++ ['"', '\n']
  | .literal =>
    let tail := if s.getLast?.any isBreak then [] else ['\n']
    '|' :: blockMarks s ++ '\n' :: indented column (fun c => [c]) true s ++ tail

/-! ## Outlines -/

/-- Decimals in YAML are plain below `10 ^ 16`; an exponent has a sign only if it is negative. -/
def yamlDecimals : Decimal.Spelling := ⟨-5, 16, []⟩

mutual

/-- What follows a key in a column: the value, with its last line ended. -/
def writeValue (column : Nat) : Outline → List Char
  | .text s => ' ' :: writeText (column + 2) s
  | .count n => ' ' :: Decimal.natText n ++ ['\n']
  | .decimal b => ' ' :: yamlDecimals.write (Decimal.shortest b) ++ ['\n']
  | .record [] => [' ', '\x7b', '\x7d', '\n']
  | .record (field :: fields) => '\n' :: writeFields (column + 2) (field :: fields)
  | .records [] => [' ', '[', ']', '\n']
  | .records (item :: items) => '\n' :: writeItems column (item :: items)

/-- The fields of a record in a column. -/
def writeFields (column : Nat) : List (String × Outline) → List Char
  | [] => []
  | field :: fields =>
    blanks column ++ field.1.toList ++ ':' :: writeValue column field.2 ++
      writeFields column fields

/-- Records in a list, each behind a dash in a column. -/
def writeItems (column : Nat) : List (List (String × Outline)) → List Char
  | [] => []
  | item :: items =>
    blanks column ++ '-' :: ' ' :: (writeFields (column + 2) item).drop (column + 2) ++
      writeItems column items

end

/-- The lines of a record that stands alone. -/
def write (fields : List (String × Outline)) : List Char := writeFields 0 fields

end LineCensus.Yaml
