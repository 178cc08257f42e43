import LineCensus.Decimal.Text
import LineCensus.Report

/-!
# `Report.Csv` — reports as comma-separated values

Two sections of records, each with a header: the listed files, if any, with an empty line after
them, and the summary.

## Contents

* `csvField`, `csvRecord` — a field, in quotes if it holds a comma, a quote or a line feed, and a
  record with its end;
* `Report.csv` — the text of a report.
-/

namespace LineCensus.Report

/-- A field. Quotes inside a quoted field are written twice. -/
def csvField (s : List Char) : List Char :=
  if s.any fun c => c == ',' || c == '"' || c == '\n' then
    '"' :: s.flatMap (fun c => if c == '"' then ['"', '"'] else [c]) ++ ['"']
  else s

/-- A record: its fields with commas between them, and a line feed. -/
def csvRecord (fields : List (List Char)) : List Char :=
  [','].intercalate (fields.map csvField) ++ ['\n']

/-- The averages in this format have two places. -/
def csvPlaces : Nat := 2

/-- The numbers of a tally. -/
def tallyTexts (t : Tally) : List (List Char) :=
  [t.lines, t.code, t.comment, t.blank].map Decimal.natText

/-- The names of the columns of files. -/
def csvFileHeader : List String := ["path", "language", "lines", "code", "comment", "blank"]

/-- The fields of a file. -/
def csvFile (f : FileRecord) : List (List Char) :=
  [f.path.display.toList, f.language.toList] ++ tallyTexts f.tally

/-- The names of the columns of the summary. -/
def csvSummaryHeader : List String :=
  ["language", "files", "lines", "code", "comment", "blank", "avg", "max", "min"]

/-- The fields of a row of the summary. -/
def csvTotals (t : Totals) : List (List Char) :=
  [t.language.toList, Decimal.natText t.files] ++ tallyTexts t.tally ++
    [Decimal.fixed csvPlaces t.average, Decimal.natText t.max, Decimal.natText t.min]

/-- The section of the files. -/
def csvFiles (files : List FileRecord) : List Char :=
  csvRecord (csvFileHeader.map String.toList) ++ files.flatMap (csvRecord ∘ csvFile) ++ ['\n']

/-- The section of the summary. -/
def csvSummary (s : Summary) : List Char :=
  csvRecord (csvSummaryHeader.map String.toList) ++
    (s.languages ++ [s.total]).flatMap (csvRecord ∘ csvTotals)

/-- The text of a report. -/
def csv (r : Report) : List Char :=
  (match r.files with
  | none => []
  | some files => csvFiles files) ++ csvSummary r.summary

end LineCensus.Report
