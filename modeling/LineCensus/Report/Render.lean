import LineCensus.Report.Table
import LineCensus.Report.Writer
import LineCensus.Yaml.Writer

/-!
# `Report.Render` — a report written in a format

## Contents

* `OutputFault` — why a report cannot be written;
* `Report.render` — the text of a report;
* `Report.writeTo` — the report written to any writer, in the form that the writer takes texts in. The
  text is complete before any of it is written;
* `Sink`, `writeReport` — a writer of texts that is closed or takes all, and a report written to it.
-/

namespace LineCensus

/-- Why a report cannot be written. -/
inductive OutputFault where
  /-- The path of a listed file is not text, and the format holds texts only. -/
  | pathInJson
  | pathInYaml
  /-- The reader of the output is gone. -/
  | brokenPipe
deriving DecidableEq, Repr

/-- The text of the fault. -/
def OutputFault.message : OutputFault → String
  | .pathInJson => "JSON error: path contains invalid UTF-8 characters"
  | .pathInYaml => "YAML error: path contains invalid UTF-8 characters"
  | .brokenPipe => "IO error: broken pipe"

/-- The text of a report. -/
def Report.render (r : Report) (format : OutputFormat) (locale : Locale) :
    Except OutputFault (List Char) :=
  match format with
  | .table => .ok (r.table locale.labels)
  | .csv => .ok r.csv
  | .json =>
    match r.outline? with
    | some fields => .ok ((Outline.record fields).toJson.pretty ++ ['\n'])
    | none => .error .pathInJson
  | .yaml =>
    match r.outline? with
    | some fields => .ok (Yaml.write fields)
    | none => .error .pathInYaml

/-- Why a report was not written, or not wholly. -/
inductive ReportFault (ε : Type) where
  /-- There is no text of the report. -/
  | notRendered (fault : OutputFault)
  /-- The text was not taken. -/
  | notWritten (fault : WriteFault ε)
deriving DecidableEq, Repr

/-- Writes a report, in the form that the writer takes texts in. -/
def Report.writeTo {α σ ε : Type} (r : Report) (format : OutputFormat) (locale : Locale)
    (form : List Char → List α) (w : Writer α σ ε) (s : σ) : Written α σ (ReportFault ε) :=
  match r.render format locale with
  | .error fault => ⟨s, [], .error (.notRendered fault)⟩
  | .ok text =>
    let written := w.deliver s (form text)
    { written with answer := written.answer.mapError .notWritten }

/-- What takes texts, unless it is closed. -/
structure Sink where
  closed : Bool := false
  written : List Char := []
deriving DecidableEq, Repr

/-- A sink takes all that it is offered; a closed one takes nothing. -/
def Sink.writer : Writer Char Sink OutputFault where
  write s text :=
    if s.closed then (s, .error .brokenPipe)
    else ({ s with written := s.written ++ text }, .ok text.length)
  flush s := (s, .ok ())

/-- The fault of a report that is written to a sink. -/
def ReportFault.ofSink : ReportFault OutputFault → OutputFault
  | .notRendered fault | .notWritten (.refused fault) => fault
  | .notWritten .stalled => .brokenPipe

/-- Writes a report to a sink. -/
def writeReport (s : Sink) (r : Report) (format : OutputFormat) (locale : Locale) :
    Sink × Except OutputFault Unit :=
  let written := r.writeTo format locale id Sink.writer s
  (written.state, written.answer.mapError ReportFault.ofSink)

end LineCensus
