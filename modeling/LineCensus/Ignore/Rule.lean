import LineCensus.Glob.Parse
import LineCensus.Text.Blank
import LineCensus.Text.Lines

/-!
# `Ignore.Rule` — lines that name what is ignored

A line holds one pattern. Behind a `!` it tells what is kept; with a slash at its end it is about
directories only; with a slash elsewhere it is anchored to the directory of the rules, otherwise it
holds at any depth. Of several rules that hold of an entry the last one decides.

## Contents

* `Verdict` — what becomes of an entry;
* `Rule`, `Rule.parse` — a rule and the line it is written in;
* `RuleSet`, `RuleSet.verdict?` — rules of one directory, and what they say of an entry;
* `RuleSet.ofBytes` — the rules of a file. Malformed lines are passed over.
-/

namespace LineCensus

/-- What becomes of an entry. -/
inductive Verdict where
  | skip
  | keep
deriving DecidableEq, Repr

/-- The opposite. -/
def Verdict.inverse : Verdict → Verdict
  | .skip => .keep
  | .keep => .skip

/-- A pattern with what follows for the entries that it stands for. -/
structure Rule where
  glob : Glob
  verdict : Verdict
  onlyDirectories : Bool
deriving Repr

namespace Rule

/-- The text without blanks at its end, unless the last of them is escaped. -/
def trimLine (line : List Char) : List Char :=
  if ['\\', ' '].isSuffixOf line then line else Text.trimEnd line

/-- A line without the mark before its pattern: the pattern, whether it tells what is kept, and
whether it is anchored by a slash before it. A backslash takes a mark literally. -/
def splitMark (line : List Char) : List Char × Verdict × Bool :=
  match line with
  | '\\' :: '!' :: pattern => ('!' :: pattern, .skip, false)
  | '\\' :: '#' :: pattern => ('#' :: pattern, .skip, false)
  | '!' :: '/' :: pattern => (pattern, .keep, true)
  | '!' :: pattern => (pattern, .keep, false)
  | '/' :: pattern => (pattern, .skip, true)
  | pattern => (pattern, .skip, false)

/-- A pattern without the slash at its end, which may be escaped, and whether there was one. -/
def splitSlash (pattern : List Char) : List Char × Bool :=
  if pattern.getLast? = some '/' then
    let before := pattern.dropLast
    (if before.getLast? = some '\\' then before.dropLast else before, true)
  else (pattern, false)

/-- Whether a pattern holds at any depth as it is written. -/
def isFloating (pattern : List Char) : Bool :=
  ['*', '*', '/'].isPrefixOf pattern || pattern == ['*', '*']

/-- The pattern for whole paths: without a slash it holds at any depth, and with a double star at
its end it stands for what is below a directory, not for the directory. -/
def wholePattern (anchored : Bool) (pattern : List Char) : List Char :=
  let anywhere :=
    if !anchored && !pattern.contains '/' && !isFloating pattern then ['*', '*', '/'] ++ pattern
    else pattern
  if ['/', '*', '*'].isSuffixOf anywhere then anywhere ++ ['/', '*'] else anywhere

/-- The rule of a line. Blank lines and those that begin with `#` hold none. -/
def parse (lenient : Bool) (line : List Char) : Except Glob.Fault (Option Rule) :=
  if line.head? = some '#' then .ok none
  else
    let line := trimLine line
    if line.isEmpty then .ok none
    else
      let (pattern, verdict, anchored) := splitMark line
      let (pattern, onlyDirectories) := splitSlash pattern
      (Glob.parse lenient (wholePattern anchored pattern)).map fun glob =>
        some { glob, verdict, onlyDirectories }

/-- Whether the rule holds of an entry. -/
def holds (r : Rule) (path : List UInt8) (isDirectory : Bool) : Bool :=
  (!r.onlyDirectories || isDirectory) && r.glob.accepts path

end Rule

/-- The rules of a directory, in order. -/
structure RuleSet where
  base : Path
  rules : List Rule
deriving Repr

namespace RuleSet

/-- A path without a dot and a slash before it. -/
def bare (path : List UInt8) : List UInt8 :=
  if [Path.dot, Path.slash].isPrefixOf path then path.drop 2 else path

/-- A path without another one before it, if it begins so. -/
def without (start path : List UInt8) : List UInt8 :=
  if start.isPrefixOf path then path.drop start.length else path

/-- A path as the patterns see it: below the directory of the rules. A name without any slash is
taken as it is, and so is every path if the directory is `.`. -/
def relative (s : RuleSet) (path : Path) : List UInt8 :=
  let path := bare path.bytes
  let base : Path := ⟨bare s.base.bytes⟩
  if base.components == [.current] || !path.contains Path.slash then path
  else if base.bytes.isPrefixOf path then without [Path.slash] (without base.bytes path)
  else path

/-- What the rules say of an entry, if any holds: the last one decides. -/
def verdict? (s : RuleSet) (path : Path) (isDirectory : Bool) : Option Verdict :=
  let relative := s.relative path
  (s.rules.reverse.find? fun r => r.holds relative isDirectory).map Rule.verdict

/-- The byte order mark. -/
def byteOrderMark : Char := '\uFEFF'

/-- The lines of a file, up to the first that is no text. -/
def textLines (bytes : List UInt8) : List (List Char) :=
  let lines := ((Text.terminated 10 bytes).map Text.decode?).takeWhile Option.isSome
  match lines.filterMap (Option.map Text.stripLineEnd) with
  | [] => []
  | first :: rest => first.dropWhile (· == byteOrderMark) :: rest

/-- The rules of lines, without those that are malformed. -/
def ofLines (base : Path) (lines : List (List Char)) : RuleSet where
  base := base
  rules := lines.filterMap fun line => ((Rule.parse true line).toOption).bind id

/-- The rules of a file. -/
def ofBytes (base : Path) (bytes : List UInt8) : RuleSet := ofLines base (textLines bytes)

end RuleSet

end LineCensus
