import LineCensus.Config
import LineCensus.Proofs.Text.WellFormed
import LineCensus.Proofs.Traversal
import LineCensus.Report.Render

/-!
# `Proofs.Report.Output` — a report is written wholly or not at all

Only a path can keep a report from being rendered, and only where the format holds texts and the file is
listed: the files are sorted and cut before they are looked at, so that a path past the cut does no harm
(`Report.render_eq_error_iff`). The text is complete before the writer is called for the first time. What a
writer takes is therefore nothing if there is no text, and otherwise a first part of the text, which is all of
it unless a call fails (`Writer.taken_writeAll`).

## Contents

* `OutputFormat.pathFault?`, `Report.render_eq_error_iff` — when there is no text of a report;
* `Writer.taken_writeAll`, `Writer.Accepts` — what a writer takes of what it is offered;
* `writeReport_of_open` — a report written to an open sink;
* `Report.wholly_written_or_not_at_all` — rendering and writing, for any writer.
-/

namespace LineCensus

/-! ## Rendering -/

/-- Whether a path is a text. -/
def Path.IsText (p : Path) : Prop := p.bytes.toByteArray.IsValidUTF8

theorem Path.text?_eq_none_iff {p : Path} : p.text? = none ↔ ¬ p.IsText := by
  rw [text?, Option.map_eq_none_iff, decode?_eq_none_iff, IsText]

theorem Path.isText_ofString (s : String) : (ofString s).IsText := isValidUTF8_iff.mpr ⟨s.toList, rfl⟩

/-- The fault of a format that cannot hold a path that is no text. -/
def OutputFormat.pathFault? : OutputFormat → Option OutputFault
  | .json => some .pathInJson
  | .yaml => some .pathInYaml
  | .csv | .table => none

namespace Report

variable {r : Report} {files : List FileRecord}

theorem fileFields?_eq_none_iff {f : FileRecord} : fileFields? f = none ↔ ¬ f.path.IsText := by
  rw [fileFields?, Option.map_eq_none_iff, Path.text?_eq_none_iff]

theorem outline?_eq_none_iff : r.outline? = none ↔ ∃ files ∈ r.files, ∃ f ∈ files, ¬ f.path.IsText := by
  rw [outline?]
  cases r.files with
  | none => simp
  | some files =>
    rw [Option.map_eq_none_iff, mapM_eq_none_iff]
    simp [fileFields?_eq_none_iff]

/-- A report lists files in full mode only, and then the sorted and cut ones. -/
theorem mem_files_of {mode : OutputMode} {order : SortOrder} {top : Option Nat} {shown : List FileRecord} :
    shown ∈ (of mode order top files).files ↔ mode = .full ∧ shown = listed order top files := by
  cases mode <;> simp [of, eq_comm]

/-- There is no text of a report exactly if its format holds texts only and a listed path is none. -/
theorem render_eq_error_iff {format : OutputFormat} {locale : Locale} {fault : OutputFault} :
    r.render format locale = .error fault ↔
      format.pathFault? = some fault ∧ ∃ files ∈ r.files, ∃ f ∈ files, ¬ f.path.IsText := by
  rw [← outline?_eq_none_iff]
  cases format with
  | table => simp [render, OutputFormat.pathFault?]
  | csv => simp [render, OutputFormat.pathFault?]
  | json => cases houtline : r.outline? <;> simp [render, OutputFormat.pathFault?, houtline]
  | yaml => cases houtline : r.outline? <;> simp [render, OutputFormat.pathFault?, houtline]

end Report

/-! ## Writing -/

namespace Writer

variable {α σ ε : Type} {w : Writer α σ ε} {s : σ} {all : List α}

/-- A writer that takes something of all that it is offered. -/
def Accepts (w : Writer α σ ε) : Prop :=
  ∀ s offered, offered ≠ [] → ∃ s' n, w.write s offered = (s', .ok (n + 1))

/-- **What a writer takes is a first part of what is to be written**, and all of it if no call fails. -/
theorem taken_writeAll (w : Writer α σ ε) (s : σ) (all : List α) :
    (w.writeAll s all).taken <+: all ∧
      ((w.writeAll s all).answer = .ok () → (w.writeAll s all).taken = all) := by
  induction s, all using writeAll.induct w with
  | case1 s => simp [writeAll]
  | case2 s a rest s' fault hwrite => simp [writeAll, hwrite]
  | case3 s a rest s' hwrite => simp [writeAll, hwrite]
  | case4 s a rest s' n hwrite ih =>
    have hall : a :: rest = (a :: rest.take n) ++ rest.drop n := by
      rw [List.cons_append, List.take_append_drop]
    -- the part that this call took, and what later calls took of the rest
    have htaken : (w.writeAll s (a :: rest)).taken =
        (a :: rest.take n) ++ (w.writeAll s' (rest.drop n)).taken := by
      rw [writeAll, hwrite]
    have hanswer : (w.writeAll s (a :: rest)).answer = (w.writeAll s' (rest.drop n)).answer := by
      rw [writeAll, hwrite]
    rw [htaken, hanswer, hall]
    exact ⟨(List.prefix_append_right_inj _).mpr ih.1, fun h => by rw [ih.2 h]⟩

/-- No call fails of a writer that takes something of all that it is offered. -/
theorem answer_writeAll_of_accepts (h : w.Accepts) (s : σ) (all : List α) :
    (w.writeAll s all).answer = .ok () := by
  induction s, all using writeAll.induct w with
  | case1 s => simp [writeAll]
  | case2 s a rest s' fault hwrite =>
    obtain ⟨_, _, htakes⟩ := h s (a :: rest) (List.cons_ne_nil _ _)
    cases hwrite.symm.trans htakes
  | case3 s a rest s' hwrite =>
    obtain ⟨_, _, htakes⟩ := h s (a :: rest) (List.cons_ne_nil _ _)
    cases hwrite.symm.trans htakes
  | case4 s a rest s' n hwrite ih =>
    rw [writeAll, hwrite]
    exact ih

/-- Flushing takes nothing. -/
theorem taken_deliver : (w.deliver s all).taken = (w.writeAll s all).taken := by
  rw [deliver]
  repeat' split
  all_goals rfl

theorem answer_writeAll_of_deliver (h : (w.deliver s all).answer = .ok ()) :
    (w.writeAll s all).answer = .ok () := by
  rw [deliver] at h
  split at h
  · exact h
  · next hanswer => exact hanswer

theorem answer_deliver (h : (w.writeAll s all).answer = .ok ())
    (hflush : ∀ s, ∃ s', w.flush s = (s', .ok ())) : (w.deliver s all).answer = .ok () := by
  obtain ⟨s', hs'⟩ := hflush (w.writeAll s all).state
  rw [deliver, h, hs']

/-- What is taken of all that is written and flushed, and when no call fails. -/
theorem deliver_spec (w : Writer α σ ε) (s : σ) (all : List α) :
    (w.deliver s all).taken <+: all ∧ ((w.deliver s all).answer = .ok () → (w.deliver s all).taken = all) ∧
      (w.Accepts → (w.deliver s all).taken = all ∧
        ((∀ s, ∃ s', w.flush s = (s', .ok ())) → (w.deliver s all).answer = .ok ())) := by
  rw [taken_deliver]
  obtain ⟨hfirst, hwhole⟩ := w.taken_writeAll s all
  refine ⟨hfirst, fun h => hwhole (answer_writeAll_of_deliver h), fun haccepts => ?_⟩
  have hanswer := answer_writeAll_of_accepts haccepts s all
  exact ⟨hwhole hanswer, answer_deliver hanswer⟩

end Writer

/-! ## Rendering and writing -/

theorem mapError_eq_ok_iff {ε ε' α : Type} {f : ε → ε'} {x : Except ε α} {a : α} :
    x.mapError f = .ok a ↔ x = .ok a := by
  cases x <;> simp [Except.mapError]

namespace Report

variable {r : Report} {format : OutputFormat} {locale : Locale} {α σ ε : Type}
variable (form : List Char → List α) (w : Writer α σ ε) (s : σ)

/-- Without a text the writer is not called. -/
theorem writeTo_of_error {fault : OutputFault} (h : r.render format locale = .error fault) :
    r.writeTo format locale form w s = ⟨s, [], .error (.notRendered fault)⟩ := by
  rw [writeTo, h]

/-- The text is written as any other elements are. -/
theorem writeTo_of_ok {text : List Char} (h : r.render format locale = .ok text) :
    (r.writeTo format locale form w s).taken = (w.deliver s (form text)).taken ∧
      ((r.writeTo format locale form w s).answer = .ok () ↔ (w.deliver s (form text)).answer = .ok ()) := by
  rw [writeTo, h]
  exact ⟨rfl, mapError_eq_ok_iff⟩

/-- A report on counted files cannot be rendered exactly for a listed path that is no text. -/
theorem render_of_fails_iff {mode : OutputMode} {order : SortOrder} {top : Option Nat}
    {files : List FileRecord} :
    (∃ fault, (of mode order top files).render format locale = .error fault) ↔
      (format = .json ∨ format = .yaml) ∧ mode = .full ∧
        ∃ file ∈ listed order top files, ¬ file.path.IsText := by
  have hformat : (∃ fault, format.pathFault? = some fault) ↔ format = .json ∨ format = .yaml := by
    cases format <;> simp [OutputFormat.pathFault?]
  simp only [render_eq_error_iff, mem_files_of, exists_and_right, hformat, and_assoc, exists_and_left,
    exists_eq_left]

end Report

/-- An open sink takes a text in one call. -/
theorem Sink.deliver_of_open {before text : List Char} :
    Sink.writer.deliver ⟨false, before⟩ text = ⟨⟨false, before ++ text⟩, text, .ok ()⟩ := by
  cases text with
  | nil => simp [Writer.deliver, Writer.writeAll, Sink.writer]
  | cons c text => simp [Writer.deliver, Writer.writeAll, Sink.writer]

/-- What a report leaves in an open sink. -/
theorem writeReport_of_open {before : List Char} {r : Report} {format : OutputFormat} {locale : Locale} :
    writeReport ⟨false, before⟩ r format locale =
      match r.render format locale with
      | .ok text => (⟨false, before ++ text⟩, .ok ())
      | .error fault => (⟨false, before⟩, .error fault) := by
  cases hrendered : r.render format locale with
  | ok text => simp [writeReport, Report.writeTo, hrendered, Sink.deliver_of_open, Except.mapError]
  | error fault => simp [writeReport, Report.writeTo, hrendered, Except.mapError, ReportFault.ofSink]

/-- **A report that cannot be rendered is not written, and it cannot be rendered exactly for a listed path
that is no text.** Sorting and cutting come first: only the files that are left count. In a format that holds
texts only, and with files listed, one of them with such a path keeps the report from being rendered, and
nothing else ever does. Then the writer is not called at all. Otherwise it takes a first part of the text, in
the form in which it takes texts (for bytes, UTF-8), and the whole of it if no call fails, as with a writer
that takes something of all that it is offered. -/
theorem Report.wholly_written_or_not_at_all (files : List FileRecord) (config : Config) (locale : Locale) :
    let report := Report.of config.mode config.sort config.top files
    let rendered := report.render config.format locale
    ((∃ fault, rendered = .error fault) ↔
      (config.format = .json ∨ config.format = .yaml) ∧ config.mode = .full ∧
        ∃ file ∈ listed config.sort config.top files, ¬ file.path.IsText) ∧
    (config.format = .csv ∨ config.format = .table ∨ config.mode = .summary → ∃ text, rendered = .ok text) ∧
    ∀ {α σ ε : Type} (form : List Char → List α) (w : Writer α σ ε) (s : σ),
      let written := report.writeTo config.format locale form w s
      (∀ fault, rendered = .error fault → written = ⟨s, [], .error (.notRendered fault)⟩) ∧
      ∀ text, rendered = .ok text →
        written.taken <+: form text ∧ (written.answer = .ok () → written.taken = form text) ∧
          (w.Accepts → written.taken = form text ∧
            ((∀ s, ∃ s', w.flush s = (s', .ok ())) → written.answer = .ok ())) := by
  intro report rendered
  refine ⟨Report.render_of_fails_iff, ?_, ?_⟩
  · intro hnever
    cases hrendered : rendered with
    | ok text => exact ⟨text, rfl⟩
    | error fault =>
      obtain ⟨hformat, hmode, -⟩ := Report.render_of_fails_iff.mp ⟨fault, hrendered⟩
      rcases hformat with hformat | hformat <;> simp [hformat, hmode] at hnever
  · intro α σ ε form w s written
    refine ⟨fun fault hrendered => Report.writeTo_of_error form w s hrendered, fun text hrendered => ?_⟩
    obtain ⟨htaken, hanswer⟩ := Report.writeTo_of_ok form w s hrendered
    rw [htaken, hanswer]
    exact w.deliver_spec s (form text)

/-- A path that is no text, past the cut and before it, and a writer that takes one byte at a time. -/
theorem Report.wholly_written_or_not_at_all_past_cut :
    let byteless : FileRecord := ⟨⟨[0xFF]⟩, "\uFFFD", "", "Shell", 2, ⟨2, 2, 0, 0⟩⟩
    let plain : FileRecord := ⟨.ofString "a.sh", "a.sh", "sh", "Shell", 1, ⟨1, 1, 0, 0⟩⟩
    let cut : Config := { format := .json, sort := [⟨.lines, false⟩], top := some 1 }
    let whole : Config := { cut with top := none }
    let report := fun config : Config => Report.of config.mode config.sort config.top [byteless, plain]
    let w : Writer UInt8 Unit Empty := ⟨fun _ _ => ((), .ok 1), fun _ => ((), .ok ())⟩
    (∃ text, (report cut).render .json .en = .ok text ∧
      ((report cut).writeTo .json .en Text.encode w ()).taken = Text.encode text) ∧
    ∃ fault, (report whole).render .json .en = .error fault ∧
      ((report whole).writeTo .json .en Text.encode w ()).taken = [] := by
  intro byteless plain cut whole report w
  have hbyteless : ¬ byteless.path.IsText := Path.text?_eq_none_iff.mp (by decide)
  have hplain : plain.path.IsText := Path.isText_ofString "a.sh"
  have hafter : cut.sort.compare byteless plain = .gt := by decide
  have hsorted : cut.sort.apply [byteless, plain] = [plain, byteless] := by
    simp [SortOrder.apply, List.mergeSort, hafter]
  have hcut : listed cut.sort cut.top [byteless, plain] = [plain] := congrArg (List.take 1) hsorted
  have hwhole : listed whole.sort whole.top [byteless, plain] = [plain, byteless] := hsorted
  have haccepts : w.Accepts := fun _ _ _ => ⟨(), 0, rfl⟩
  obtain ⟨hcutFails, -, hcutWrites⟩ := Report.wholly_written_or_not_at_all [byteless, plain] cut .en
  obtain ⟨hwholeFails, -, hwholeWrites⟩ := Report.wholly_written_or_not_at_all [byteless, plain] whole .en
  constructor
  · cases hrendered : (report cut).render .json .en with
    | ok text => exact ⟨text, rfl, (((hcutWrites Text.encode w ()).2 text hrendered).2.2 haccepts).1⟩
    | error fault =>
      obtain ⟨-, -, file, hfile, hpath⟩ := hcutFails.mp ⟨fault, hrendered⟩
      rw [hcut, List.mem_singleton] at hfile
      exact absurd (hfile ▸ hplain) hpath
  · have hlisted : byteless ∈ listed whole.sort whole.top [byteless, plain] := by
      rw [hwhole]
      exact List.mem_cons_of_mem _ (List.mem_singleton_self _)
    obtain ⟨fault, hrendered⟩ := hwholeFails.mpr ⟨.inl rfl, rfl, byteless, hlisted, hbyteless⟩
    exact ⟨fault, hrendered, congrArg Written.taken ((hwholeWrites Text.encode w ()).1 fault hrendered)⟩

end LineCensus
