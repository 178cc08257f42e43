import LineCensus.Definition.Json
import LineCensus.Report

/-!
# `Report.Reader` — files and summaries read from JSON

Files, rows and summaries are read by the names of their fields. Names that are not those of a field are
passed over, and a field may stand once. The figures of a tally stand among the other fields, so a file or a
row has to be an object; a summary may also be an array of its two fields.

## Contents

* `Json.word?`, `Json.number?` — numbers;
* `FileRecord.ofJson?`, `Totals.ofJson?`, `Summary.ofJson?` — what a report is made of. A row has an
  average, which follows from its other numbers and is not kept.
-/

namespace LineCensus

namespace Json

/-- The least number that takes more than 64 bits. -/
def wordLimit : Nat := 18446744073709551616

/-- A whole number of 64 bits. One with a sign, a fraction or an exponent is none. -/
def word? : Json → Option Nat
  | .number text =>
    if text.all Char.isDigit ∧ Nat.ofDigitChars 10 text 0 < wordLimit then
      some (Nat.ofDigitChars 10 text 0)
    else none
  | _ => none

/-- A number of any kind, whose value is not kept. -/
def number? : Json → Option Unit
  | .number _ => some ()
  | _ => none

end Json

open Definition (fieldsOf? required?)

/-- The fields of an object by name. -/
def recordOf? (names : List String) : Json → Option (List (String × Json))
  | .object members => fieldsOf? names (.object members)
  | _ => none

/-- The names of the figures of a tally. -/
def tallyNames : List String := ["lines", "code", "comment", "blank"]

/-- A tally among other fields. -/
def tallyOf? (fields : List (String × Json)) : Option Tally := do
  let lines ← required? fields "lines" Json.word?
  let code ← required? fields "code" Json.word?
  let comment ← required? fields "comment" Json.word?
  let blank ← required? fields "blank" Json.word?
  return ⟨lines, code, comment, blank⟩

/-- A file. -/
def FileRecord.ofJson? (v : Json) : Option FileRecord := do
  let fields ← recordOf? (["path", "name", "ext", "language", "size"] ++ tallyNames) v
  let path ← required? fields "path" Json.text?
  let name ← required? fields "name" Json.text?
  let extension ← required? fields "ext" Json.text?
  let language ← required? fields "language" Json.text?
  let size ← required? fields "size" Json.word?
  let tally ← tallyOf? fields
  return ⟨.ofString path, name, extension, language, size, tally⟩

/-- A row of a summary. -/
def Totals.ofJson? (v : Json) : Option Totals := do
  let fields ← recordOf? (["language", "files"] ++ tallyNames ++ ["avg", "max", "min"]) v
  let language ← required? fields "language" Json.text?
  let files ← required? fields "files" Json.word?
  let tally ← tallyOf? fields
  let _ ← required? fields "avg" Json.number?
  let max ← required? fields "max" Json.word?
  let min ← required? fields "min" Json.word?
  return ⟨language, files, tally, max, min⟩

/-- A summary. -/
def Summary.ofJson? (v : Json) : Option Summary := do
  let fields ← fieldsOf? ["languages", "total"] v
  let languages ← required? fields "languages" (Json.listOf? Totals.ofJson?)
  let total ← required? fields "total" Totals.ofJson?
  return ⟨languages, total⟩

end LineCensus
