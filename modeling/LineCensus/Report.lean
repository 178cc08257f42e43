import LineCensus.Outline
import LineCensus.SortOrder
import LineCensus.Summary

/-!
# `Report` — what is told about counted files

## Contents

* `OutputFormat`, `OutputMode` — how the report is written, and whether the files are listed;
* `Report`, `Report.of` — the listed files, if any, and the summary of all files;
* `Report.outline?` — its fields; none if the path of a listed file is not text.
-/

namespace LineCensus

/-- How a report is written. -/
inductive OutputFormat where
  | table
  | csv
  | json
  | yaml
deriving DecidableEq, Repr

/-- Whether the files are listed. -/
inductive OutputMode where
  | full
  | summary
deriving DecidableEq, Repr

/-- The listed files, if any, and the summary. -/
structure Report where
  files : Option (List FileRecord)
  summary : Summary
deriving DecidableEq, Repr

namespace Report

/-- The report on counted files. Sorting and cutting change the list only, not the summary. -/
def of (mode : OutputMode) (order : SortOrder) (top : Option Nat) (files : List FileRecord) :
    Report where
  files :=
    match mode with
    | .full => some (listed order top files)
    | .summary => none
  summary := summarize files

/-- The fields of a tally. -/
def tallyFields (t : Tally) : List (String × Outline) :=
  [("lines", .count t.lines), ("code", .count t.code), ("comment", .count t.comment),
    ("blank", .count t.blank)]

/-- The fields of a file; none if its path is not text. -/
def fileFields? (f : FileRecord) : Option (List (String × Outline)) :=
  f.path.text?.map fun path =>
    [("path", .text path.toList), ("name", .text f.name.toList),
      ("ext", .text f.extension.toList), ("language", .text f.language.toList),
      ("size", .count f.size)] ++ tallyFields f.tally

/-- The fields of a row of the summary. -/
def totalsFields (t : Totals) : List (String × Outline) :=
  [("language", .text t.language.toList), ("files", .count t.files)] ++ tallyFields t.tally ++
    [("avg", .decimal t.average), ("max", .count t.max), ("min", .count t.min)]

/-- The fields of a summary. -/
def summaryFields (s : Summary) : List (String × Outline) :=
  [("languages", .records (s.languages.map totalsFields)), ("total", .record (totalsFields s.total))]

/-- The fields of a report; none if the path of a listed file is not text. -/
def outline? (r : Report) : Option (List (String × Outline)) :=
  let summary : List (String × Outline) := [("summary", .record (summaryFields r.summary))]
  match r.files with
  | none => some summary
  | some files => (files.mapM fileFields?).map fun items => ("files", .records items) :: summary

end Report

end LineCensus
