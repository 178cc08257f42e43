import LineCensus.Decimal.Binary
import LineCensus.FileRecord

/-!
# `Summary` — totals per language

## Contents

* `Totals` — files, lines, and the longest and shortest file of a group; `Totals.average`;
* `Summary`, `summarize` — one row for each language, and the row of all files.

Rows stand in falling order of lines, and rows with as many lines in the order of their names.
-/

namespace LineCensus

/-- The totals of a group of files. -/
structure Totals where
  language : String
  files : Nat
  tally : Tally
  /-- The lines of the longest file. -/
  max : Nat
  /-- The lines of the shortest file; zero if there is none. -/
  min : Nat
deriving DecidableEq, Repr

namespace Totals

/-- The totals of no file. -/
def zero (language : String) : Totals := ⟨language, 0, {}, 0, 0⟩

/-- The totals with one more file. -/
def add (t : Totals) (file : FileRecord) : Totals where
  language := t.language
  files := t.files + 1
  tally := t.tally + file.tally
  max := Nat.max t.max file.tally.lines
  min := if t.files = 0 then file.tally.lines else Nat.min t.min file.tally.lines

/-- The totals of a list of files. -/
def ofFiles (language : String) (files : List FileRecord) : Totals :=
  files.foldl add (zero language)

/-- Lines for each file; zero if there is no file. Both counts are rounded before they are
divided. -/
def average (t : Totals) : Decimal.Binary :=
  (Decimal.Binary.ofNat t.tally.lines).div (Decimal.Binary.ofNat t.files)

/-- The order of rows. -/
def compare (a b : Totals) : Ordering :=
  (Ord.compare b.tally.lines a.tally.lines).then (Ord.compare a.language b.language)

end Totals

/-- Totals for each language and for all files. -/
structure Summary where
  languages : List Totals
  total : Totals
deriving DecidableEq, Repr

/-- The languages of the files, each once. -/
def languagesOf (files : List FileRecord) : List String := (files.map FileRecord.language).eraseDups

/-- The name of the row of all files. -/
def totalName : String := "sum"

/-- The totals of the files. -/
def summarize (files : List FileRecord) : Summary where
  languages :=
    ((languagesOf files).map fun language =>
      Totals.ofFiles language (files.filter (·.language == language))).mergeSort
        fun a b => (Totals.compare a b).isLE
  total := Totals.ofFiles totalName files

end LineCensus
