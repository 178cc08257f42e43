import LineCensus.Failure
import LineCensus.Ignore.Rule

/-!
# `Ignore.Override` — patterns given for one walk

Patterns of a walk are written like the lines of rule files and go before all these. They mean the
opposite: a plain pattern tells what is looked at, and one behind a `!` what is left out. The last
pattern that holds decides. As soon as some pattern tells what is looked at, files that no pattern
holds of are left out; directories are entered all the same.

## Contents

* `overrideLines` — patterns to look at, then patterns to leave out;
* `Overrides`, `Overrides.build`, `Overrides.verdict?`.
-/

namespace LineCensus

/-- The lines of patterns to look at and of patterns to leave out. -/
def overrideLines (includes excludes : List (List Char)) : List (List Char) :=
  includes ++ excludes.map ('!' :: ·)

/-- The patterns of a walk, as rules that mean the opposite. -/
structure Overrides where
  set : RuleSet
deriving Repr

namespace Overrides

/-- The rule of a line, which must not be malformed. -/
def ruleOfLine (line : List Char) : Except Failure (Option Rule) :=
  (Rule.parse false line).mapError (.walk (String.ofList (Rule.trimLine line)))

/-- The rules of lines. -/
def rulesOfLines (lines : List (List Char)) : Except Failure (List Rule) :=
  (lines.mapM ruleOfLine).map fun rules => rules.filterMap id

/-- The patterns of a walk, relative to a directory. -/
def build (base : Path) (includes excludes : List (List Char)) : Except Failure Overrides :=
  (rulesOfLines (overrideLines includes excludes)).map fun rules => ⟨⟨base, rules⟩⟩

/-- Whether some pattern tells what is looked at. -/
def selects (o : Overrides) : Bool := o.set.rules.any fun r => r.verdict == .skip

/-- What the patterns say of an entry. -/
def verdict? (o : Overrides) (path : Path) (isDirectory : Bool) : Option Verdict :=
  match o.set.verdict? path isDirectory with
  | some verdict => some verdict.inverse
  | none => if o.selects && !isDirectory then some .skip else none

end Overrides

end LineCensus
