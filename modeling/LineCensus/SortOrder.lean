import LineCensus.FileRecord
import LineCensus.Text.Blank
import LineCensus.Text.Case

/-!
# `SortOrder` — by what the files of a report are sorted

## Contents

* `SortKey`, `SortKey.parse` — a column by its name;
* `SortTerm`, `SortOrder`, `SortOrder.parse` — columns with directions, as in `code:desc,name`;
* `SortOrder.apply` — the stable sort by the terms, first term first;
* `listed` — the files of a report: sorted, then cut to the first few.
-/

namespace LineCensus

/-- A column to sort by. -/
inductive SortKey where
  | lines
  | code
  | comment
  | blank
  | name
  | language
deriving DecidableEq, Repr

/-- The column of a name in any ASCII case. -/
def SortKey.parse (text : List Char) : Except String SortKey :=
  let key := String.ofList (Text.lowerAscii text)
  if key = "lines" then .ok .lines
  else if key = "code" then .ok .code
  else if key = "comment" ∨ key = "comments" then .ok .comment
  else if key = "blank" then .ok .blank
  else if key = "name" then .ok .name
  else if key = "language" ∨ key = "lang" then .ok .language
  else .error ("Unknown sort key: " ++ key)

/-- A column and its direction. -/
structure SortTerm where
  key : SortKey
  descending : Bool
deriving DecidableEq, Repr

/-- Columns to sort by, the first one foremost. -/
abbrev SortOrder := List SortTerm

/-- The parts of a text between separators. -/
def splitOn (sep : Char) : List Char → List (List Char)
  | [] => [[]]
  | c :: s =>
    if c = sep then [] :: splitOn sep s
    else
      match splitOn sep s with
      | [] => [[c]]
      | part :: rest => (c :: part) :: rest

/-- The parts before and after the first separator, if there is one. -/
def splitOnce? (sep : Char) (s : List Char) : Option (List Char × List Char) :=
  match s.dropWhile (· != sep) with
  | [] => none
  | _ :: after => some (s.takeWhile (· != sep), after)

/-- One term: a column, or a column and a direction after a colon. Any direction but `desc` is
rising. -/
def SortTerm.parse (part : List Char) : Except String SortTerm :=
  match splitOnce? ':' part with
  | none => (SortKey.parse part).map fun key => ⟨key, false⟩
  | some (key, direction) =>
    (SortKey.parse (Text.trim key)).map fun key =>
      ⟨key, Text.eqIgnoreAsciiCase (Text.trim direction) ['d', 'e', 's', 'c']⟩

/-- The terms of a text, separated by commas; blank parts are left out. -/
def SortOrder.parse (text : List Char) : Except String SortOrder :=
  (((splitOn ',' text).map Text.trim).filter (!·.isEmpty)).mapM SortTerm.parse

/-- The order of two files in a column. -/
def SortKey.compare (key : SortKey) (a b : FileRecord) : Ordering :=
  match key with
  | .lines => Ord.compare a.tally.lines b.tally.lines
  | .code => Ord.compare a.tally.code b.tally.code
  | .comment => Ord.compare a.tally.comment b.tally.comment
  | .blank => Ord.compare a.tally.blank b.tally.blank
  | .name => Ord.compare a.name b.name
  | .language => Ord.compare a.language b.language

/-- The order of two files by a term. -/
def SortTerm.compare (term : SortTerm) (a b : FileRecord) : Ordering :=
  if term.descending then (term.key.compare a b).swap else term.key.compare a b

/-- The order of two files by the terms: the first one that tells them apart decides. -/
def SortOrder.compare : SortOrder → FileRecord → FileRecord → Ordering
  | [], _, _ => .eq
  | term :: terms, a, b => (term.compare a b).then (SortOrder.compare terms a b)

/-- The files in order; files that no term tells apart keep their places. -/
def SortOrder.apply (order : SortOrder) (files : List FileRecord) : List FileRecord :=
  files.mergeSort fun a b => (order.compare a b).isLE

/-- The files of a report: sorted, then cut to the first `top` if that is given. -/
def listed (order : SortOrder) (top : Option Nat) (files : List FileRecord) : List FileRecord :=
  let sorted := order.apply files
  match top with
  | none => sorted
  | some n => sorted.take n

end LineCensus
