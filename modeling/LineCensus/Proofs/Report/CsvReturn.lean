import LineCensus.Proofs.Report.Csv
import Mathlib.Tactic.ByContra
import Mathlib.Tactic.Push

/-!
# `Proofs.Report.CsvReturn` — carriage returns in fields

Many readers of comma-separated values take any of a line feed, a carriage return and both in this order as the
end of a record, and not the line feed alone. For them a carriage return is as special as a line feed, but no
field is put in quotes on account of one. Said here is which fields come through all the same: those without a
carriage return, and those that are in quotes for another character (`field_read_back_iff`).

Both directions follow from what the reader with one kind of line end does, since between quotes the two agree
on every character and outside quotes on every character but this one. Where a field is cut at a carriage
return, the piece before it has become the last field of a record, and no record is ever taken back
(`records_prefix_run`).

## Contents

* `CommonReading`, `CommonReading.step`, `CommonReading.run` — the reader;
* `CommonReading.run_of_not_mem`, `CommonReading.run_csvField` — texts without a carriage return, and fields;
* `ReadBeforeComma`, `ReadBeforeLineFeed` — a field is read back, by what stands behind it;
* `field_read_back_iff` — which fields are.
-/

namespace LineCensus.Csv

open Report

/-! ## The reader -/

/-- What was read, and whether the last character was a carriage return that ended a record: a line feed right
behind it belongs to the same end. -/
structure CommonReading where
  reading : Reading := {}
  returned : Bool := false
deriving DecidableEq, Repr

namespace CommonReading

/-- One character is read. Outside quotes a carriage return ends the record. -/
def step (r : CommonReading) (ch : Char) : Option CommonReading :=
  if r.returned ∧ ch = '\n' then some { reading := r.reading }
  else if ch = '\r' ∧ r.reading.place ≠ .quoted then
    some { reading := r.reading.endRecord, returned := true }
  else (r.reading.step ch).map fun reading => { reading }

/-- A text is read. -/
def run (r : CommonReading) (text : List Char) : Option CommonReading := text.foldlM step r

variable {r r' : CommonReading} {reading : Reading} {ch : Char} {s t : List Char}

@[simp] theorem run_nil : r.run [] = some r := rfl

theorem run_cons : r.run (ch :: s) = (r.step ch).bind fun r' => r'.run s := rfl

theorem run_append : r.run (s ++ t) = (r.run s).bind fun r' => r'.run t :=
  List.foldlM_append

/-! ## Where the readers agree -/

/-- On a character that is no carriage return, or between quotes, the two readers do the same. -/
theorem step_eq (h : ch ≠ '\r' ∨ reading.place = .quoted) :
    step { reading } ch = (reading.step ch).map fun reading => { reading } := by
  unfold step
  rw [if_neg (by simp)]
  apply if_neg
  rintro ⟨hreturn, hplace⟩
  rcases h with hch | hquoted
  · exact hch hreturn
  · exact hplace hquoted

/-- A text without a carriage return is read alike. -/
theorem run_of_not_mem (h : '\r' ∉ s) :
    run { reading } s = (reading.run s).map fun reading => { reading } := by
  induction s generalizing reading with
  | nil => rfl
  | cons ch s ih =>
    rw [List.mem_cons, not_or] at h
    rw [run_cons, Reading.run, List.foldlM_cons, step_eq (.inl (Ne.symm h.1))]
    cases reading.step ch with
    | none => rfl
    | some next => exact ih h.2

/-- Between quotes a carriage return is a character like any other. -/
theorem run_doubled (h : reading.place = .quoted) :
    run { reading } (s.flatMap fun ch => if ch == '"' then ['"', '"'] else [ch]) =
      some { reading := { reading with field := reading.field ++ s } } := by
  induction s generalizing reading with
  | nil => simp
  | cons ch s ih =>
    have hread : run { reading } (if ch == '"' then ['"', '"'] else [ch]) =
        some { reading := reading.push .quoted ch } := by
      by_cases hquote : ch = '"'
      · simp [hquote, run_cons, step_eq, Reading.step, h, Reading.push]
      · simp [hquote, run_cons, step_eq, Reading.step, h]
    rw [List.flatMap_cons, run_append, hread, Option.bind_some, ih rfl]
    simp [Reading.push, h]

/-! ## Records -/

theorem records_prefix_readingStep {next : Reading} (h : reading.step ch = some next) :
    reading.records <+: next.records := by
  have hcases : next.records = reading.records ∨ next = reading.endRecord := by
    unfold Reading.step Reading.unquoted at h
    grind [Reading.endField, Reading.push]
  rcases hcases with hsame | rfl
  · exact hsame ▸ List.prefix_refl _
  · exact List.prefix_append _ _

theorem records_prefix_step (h : r.step ch = some r') : r.reading.records <+: r'.reading.records := by
  unfold step at h
  split at h
  · obtain rfl := Option.some.inj h
    exact List.prefix_refl _
  · split at h
    · obtain rfl := Option.some.inj h
      exact List.prefix_append _ _
    · obtain ⟨next, hnext, rfl⟩ := Option.map_eq_some_iff.mp h
      exact records_prefix_readingStep hnext

/-- **No record is taken back.** -/
theorem records_prefix_run (h : r.run s = some r') : r.reading.records <+: r'.reading.records := by
  induction s generalizing r with
  | nil =>
    obtain rfl := Option.some.inj h
    exact List.prefix_refl _
  | cons ch s ih =>
    rw [run_cons, Option.bind_eq_some_iff] at h
    obtain ⟨next, hstep, hrun⟩ := h
    exact (records_prefix_step hstep).trans (ih hrun)

end CommonReading

/-! ## Fields -/

open CommonReading

variable {s : List Char}

/-- A carriage return in a field is between quotes, since something else in the field is special. -/
def Guarded (s : List Char) : Prop := '\r' ∈ s → ∃ ch ∈ s, Special ch

theorem csvField_of_special (h : ∃ ch ∈ s, Special ch) :
    csvField s = '"' :: (s.flatMap fun ch => if ch == '"' then ['"', '"'] else [ch]) ++ ['"'] := by
  have hany : (s.any fun ch => ch == ',' || ch == '"' || ch == '\n') = true := by
    simpa [List.any_eq_true, Special, or_assoc] using h
  rw [csvField, if_pos hany]

theorem csvField_of_plain (h : ∀ ch ∈ s, ¬ Special ch) : csvField s = s := by
  have hany : ¬ (s.any fun ch => ch == ',' || ch == '"' || ch == '\n') = true := by
    simpa [List.any_eq_true, Special, not_or, or_assoc] using h
  rw [csvField, if_neg hany]

/-- **A guarded field is read back**, up to where its separator is to stand. -/
theorem run_csvField_of_guarded (h : Guarded s) (before : List (List Char))
    (records : List (List (List Char))) :
    ∃ place, place ≠ .quoted ∧
      CommonReading.run { reading := { fields := before, records } } (csvField s) =
        some { reading := { place, field := s, fields := before, records } } := by
  by_cases hspecial : ∃ ch ∈ s, Special ch
  · refine ⟨.quote, by decide, ?_⟩
    have hopen : CommonReading.step { reading := { fields := before, records } } '"' =
        some { reading := { place := .quoted, fields := before, records } } := rfl
    have hclose : CommonReading.step { reading := { place := .quoted, field := s, fields := before, records } } '"' =
        some { reading := { place := .quote, field := s, fields := before, records } } := rfl
    rw [csvField_of_special hspecial, List.cons_append, CommonReading.run_cons, hopen, Option.bind_some,
      CommonReading.run_append, CommonReading.run_doubled rfl, Option.bind_some, List.nil_append,
      CommonReading.run_cons, hclose]
    rfl
  · have hplain : ∀ ch ∈ s, ¬ Special ch := by
      intro ch hch hmem
      exact hspecial ⟨ch, hch, hmem⟩
    have hreturn : '\r' ∉ csvField s := by
      rw [csvField_of_plain hplain]
      exact fun hmem => hspecial (h hmem)
    obtain ⟨place, hplace, hrun⟩ :=
      run_csvField (r := { fields := before, records }) (s := s) rfl rfl
    refine ⟨place, hplace, ?_⟩
    rw [run_of_not_mem hreturn, hrun]
    rfl

/-- **Elsewhere a carriage return ends the record** with what stands before it as the last field. -/
theorem exists_run_of_not_guarded (h : ¬ Guarded s) (before : List (List Char))
    (records : List (List (List Char))) (rest : List Char) {r : CommonReading}
    (hrun : CommonReading.run { reading := { fields := before, records } } (csvField s ++ rest) = some r) :
    ∃ front, front ≠ s ∧ records ++ [before ++ [front]] <+: r.reading.records := by
  unfold Guarded at h
  push Not at h
  obtain ⟨hmem, hplain⟩ := h
  obtain ⟨front, back, rfl, hfront⟩ := List.eq_append_cons_of_mem hmem
  refine ⟨front, fun heq => hfront (heq ▸ hmem), ?_⟩
  have hbare : ∀ ch ∈ front, ¬ Special ch := fun ch hch => hplain ch (List.mem_append_left _ hch)
  obtain ⟨place, hplace, hread⟩ :=
    run_bare (r := { fields := before, records }) hbare (.inl rfl)
  have hend : CommonReading.step { reading := { place, field := front, fields := before, records } } '\r' =
      some { reading := { records := records ++ [before ++ [front]] }, returned := true } := by
    unfold CommonReading.step
    simp [hplace, Reading.endRecord]
  rw [csvField_of_plain hplain, List.append_assoc, CommonReading.run_append, run_of_not_mem hfront, hread,
    Option.map_some, Option.bind_some, List.nil_append, List.cons_append, CommonReading.run_cons, hend,
    Option.bind_some] at hrun
  exact records_prefix_run hrun

/-! ## Fields and what stands behind them -/

/-- Wherever a field begins, the reader finds it in what is written for it and a comma, and the record goes
on. -/
def ReadBeforeComma (s : List Char) : Prop :=
  ∀ before records, CommonReading.run { reading := { fields := before, records } } (csvField s ++ [',']) =
    some { reading := { fields := before ++ [s], records } }

/-- Wherever a field begins, the reader finds it in what is written for it and a line feed, as the last field of
its record. -/
def ReadBeforeLineFeed (s : List Char) : Prop :=
  ∀ before records, CommonReading.run { reading := { fields := before, records } } (csvField s ++ ['\n']) =
    some { reading := { records := records ++ [before ++ [s]] } }

/-- **A field is read back exactly if it holds no carriage return or is in quotes for another character**, before
a comma and before a line feed alike. -/
theorem field_read_back_iff (s : List Char) :
    (ReadBeforeComma s ↔ Guarded s) ∧ (ReadBeforeLineFeed s ↔ Guarded s) := by
  refine ⟨⟨fun hread => ?_, fun hguarded => ?_⟩, ⟨fun hread => ?_, fun hguarded => ?_⟩⟩
  · by_contra hnot
    obtain ⟨front, -, hprefix⟩ := exists_run_of_not_guarded hnot [] [] [','] (hread [] [])
    exact absurd hprefix.length_le (by simp)
  · intro before records
    obtain ⟨place, hplace, hrun⟩ := run_csvField_of_guarded hguarded before records
    rw [CommonReading.run_append, hrun, Option.bind_some, CommonReading.run_cons, step_eq (.inl (by decide)),
      step_comma hplace]
    rfl
  · by_contra hnot
    obtain ⟨front, hfront, hprefix⟩ := exists_run_of_not_guarded hnot [] [] ['\n'] (hread [] [])
    have hsame : front = s := by simpa using hprefix.eq_of_length rfl
    exact hfront hsame
  · intro before records
    obtain ⟨place, hplace, hrun⟩ := run_csvField_of_guarded hguarded before records
    rw [CommonReading.run_append, hrun, Option.bind_some, CommonReading.run_cons, step_eq (.inl (by decide)),
      step_lineFeed hplace]
    rfl

/-- A name with a carriage return in it and nothing else that is special is read as the end of one record and
the beginning of the next. -/
theorem field_cut_at_return :
    let name := "a\rb".toList
    csvField name = name ∧ ¬ ReadBeforeComma name ∧
      CommonReading.run {} (csvField name ++ [',']) =
        some { reading := { fields := [['b']], records := [[['a']]] } } := by
  intro name
  refine ⟨by decide, ?_, by decide⟩
  intro hread
  exact absurd (hread [] []) (by decide)

end LineCensus.Csv
