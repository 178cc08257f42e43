import LineCensus.Locale
import LineCensus.Report.Csv
import LineCensus.Table

/-!
# `Report.Table` — reports as tables for reading

The listed files and the summary are a table each, with labels of a locale. If there is no file at
all, one line says so.
-/

namespace LineCensus.Report

/-- The averages in this format have one place. -/
def tablePlaces : Nat := 1

/-- The cells of labels. -/
def labelCells (labels : List String) : List Table.Cell := labels.map fun l => .left l.toList

/-- The cells of a file. -/
def fileCells (f : FileRecord) : List Table.Cell :=
  [.left f.path.display.toList, .left f.language.toList] ++ (tallyTexts f.tally).map .right

/-- The cells of a row of the summary. -/
def totalsCells (label : String) (t : Totals) : List Table.Cell :=
  .left label.toList :: ([Decimal.natText t.files] ++ tallyTexts t.tally ++
    [Decimal.fixed tablePlaces t.average, Decimal.natText t.max, Decimal.natText t.min]).map .right

/-- The table of the files, with an empty line after it. -/
def fileTable (l : Labels) (files : List FileRecord) : List Char :=
  Table.draw (labelCells [l.path, l.language, l.lines, l.code, l.comment, l.blank])
    (files.map fileCells) ++ ['\n', '\n']

/-- The table of the summary under its title. -/
def summaryTable (l : Labels) (s : Summary) : List Char :=
  l.statistic.toList ++ '\n' :: Table.draw
    (labelCells [l.language, l.files, l.lines, l.code, l.comment, l.blank, l.avg, l.max, l.min])
    (s.languages.map (fun t => totalsCells t.language t) ++ [totalsCells l.sum s.total]) ++ ['\n']

/-- The text of a report. -/
def table (l : Labels) (r : Report) : List Char :=
  if r.summary.total.files = 0 then l.noneProject.toList ++ ['\n']
  else
    (match r.files with
    | none => []
    | some files => fileTable l files) ++ summaryTable l r.summary

end LineCensus.Report
