import LineCensus.Proofs.Json.Fields
import LineCensus.Proofs.Report.Output
import LineCensus.Proofs.Summary.Rows
import LineCensus.Report.Reader

/-!
# `Proofs.Report.Json` — a report in JSON is read back

A report is written as an outline, and what an outline is written as can be read back as a value
(`Outline.proper_toJson`). What is left to do is to find the fields of files and rows in that value by their
names. They are found because no name stands twice and none is missing; the figures of a tally are found
among the other fields in the same way.

Counts are read as numbers of 64 bits, so they have to be such numbers. For the sizes of files this is asked
for, and so it is for the figures of all files together; then it holds of each file and of each row
(`FilesFit.totals_of_sublist`), since no number of a part is more than that of the whole.

## Contents

* `Json.DistinctNames` — no object holds a name twice;
* `Outline.proper_toJson`, `Outline.distinctNames_record` — outlines as values;
* `fieldsOf?_record` — records read by names;
* `Tally.Fits`, `Totals.Fits`, `FilesFit` — numbers of 64 bits;
* `ofJson?_fileFields`, `ofJson?_totalsFields`, `ofJson?_summaryFields` — files, rows and summaries;
* `Report.Tells`, `Report.json_read_back` — reports.
-/

namespace LineCensus

/-! ## Outlines as values -/

/-- No object in the value holds two members of one name. -/
inductive Json.DistinctNames : Json → Prop where
  | null : DistinctNames .null
  | bool (value : Bool) : DistinctNames (.bool value)
  | number (text : List Char) : DistinctNames (.number text)
  | string (text : Option (List Char)) : DistinctNames (.string text)
  | array {elements : List Json} (h : ∀ v ∈ elements, DistinctNames v) : DistinctNames (.array elements)
  | object {members : List (Option (List Char) × Json)} (hnames : (members.map Prod.fst).Nodup)
      (hvalues : ∀ m ∈ members, DistinctNames m.2) : DistinctNames (.object members)

namespace Outline

theorem fieldsToJson_eq (fields : List (String × Outline)) :
    fieldsToJson fields = fields.map fun field => (some field.1.toList, field.2.toJson) := by
  induction fields with
  | nil => rfl
  | cons field fields ih => rw [fieldsToJson, ih, List.map_cons]

theorem itemsToJson_eq (items : List (List (String × Outline))) :
    itemsToJson items = items.map fun item => (record item).toJson := by
  induction items with
  | nil => rfl
  | cons item items ih => rw [itemsToJson, ih, List.map_cons, toJson]

mutual

/-- **An outline is written as a proper value.** -/
theorem proper_toJson : (o : Outline) → o.toJson.Proper
  | .text s => .string s
  | .count n => .number (isWhole_toDigits n).isNumber
  | .decimal _ => .number (Decimal.Spelling.isNumber_write (.inr rfl) _)
  | .record fields => proper_fields fields
  | .records items => .array (proper_items items)

theorem proper_fields : (fields : List (String × Outline)) → (Json.object (fieldsToJson fields)).Proper
  | [] => .object (by simp [fieldsToJson]) (by simp [fieldsToJson])
  | field :: fields => by
    have hfirst := proper_toJson field.2
    cases proper_fields fields with
    | object hnames hvalues =>
    exact .object (List.forall_mem_cons.mpr ⟨rfl, hnames⟩) (List.forall_mem_cons.mpr ⟨hfirst, hvalues⟩)

theorem proper_items : (items : List (List (String × Outline))) → ∀ v ∈ itemsToJson items, v.Proper
  | [] => by simp [itemsToJson]
  | item :: items => List.forall_mem_cons.mpr ⟨proper_fields item, proper_items items⟩

end

theorem distinctNames_record {fields : List (String × Outline)} (hnames : (fields.map Prod.fst).Nodup)
    (hvalues : ∀ field ∈ fields, field.2.toJson.DistinctNames) : (record fields).toJson.DistinctNames := by
  rw [toJson, fieldsToJson_eq]
  constructor
  · have hinjective : Function.Injective fun name : String => some name.toList :=
      fun _ _ h => String.toList_inj.mp (Option.some.inj h)
    have hmap := hnames.map hinjective
    rwa [List.map_map] at hmap ⊢
  · intro m hm
    obtain ⟨field, hfield, rfl⟩ := List.mem_map.mp hm
    exact hvalues field hfield

theorem distinctNames_records {items : List (List (String × Outline))}
    (h : ∀ item ∈ items, (record item).toJson.DistinctNames) : (records items).toJson.DistinctNames := by
  rw [toJson, itemsToJson_eq]
  refine .array fun v hv => ?_
  obtain ⟨item, hitem, rfl⟩ := List.mem_map.mp hv
  exact h item hitem

end Outline

/-! ## Reading by names -/

theorem word?_nat {n : Nat} (h : n < Json.wordLimit) : Json.word? (Json.nat n) = some n := by
  have hdigits : (Nat.toDigits 10 n).all Char.isDigit = true :=
    List.all_eq_true.mpr (isDigits_toDigits n).2
  simp only [Json.nat, Json.word?, Nat.ofDigitChars_ten_toDigits]
  rw [if_pos ⟨hdigits, h⟩]

/-- The values of a record by name. -/
def Outline.byName (fields : List (String × Outline)) : List (String × Json) :=
  fields.map fun field => (field.1, field.2.toJson)

/-- The fields of a record are found under their names. -/
theorem fieldsOf?_record (names : List String) (fields : List (String × Outline))
    (hnodup : (fields.map Prod.fst).Nodup) (hnames : ∀ name ∈ fields.map Prod.fst, name ∈ names) :
    Definition.fieldsOf? names (Outline.record fields).toJson = some (Outline.byName fields) := by
  have hfst : (Outline.byName fields).map Prod.fst = fields.map Prod.fst := by
    rw [Outline.byName, List.map_map]
    rfl
  have hvalue : (Outline.record fields).toJson = .ofMembers (Outline.byName fields) := by
    rw [Outline.toJson, Outline.fieldsToJson_eq, Json.ofMembers, Outline.byName, List.map_map]
    rfl
  rw [hvalue]
  exact Definition.fieldsOf?_ofMembers (hfst ▸ hnodup) (hfst ▸ hnames)

/-! ## Numbers of 64 bits -/

/-- The figures of a tally are numbers of 64 bits. -/
structure Tally.Fits (t : Tally) : Prop where
  lines : t.lines < Json.wordLimit
  code : t.code < Json.wordLimit
  comment : t.comment < Json.wordLimit
  blank : t.blank < Json.wordLimit

/-- The numbers of a row are numbers of 64 bits. -/
structure Totals.Fits (t : Totals) : Prop where
  files : t.files < Json.wordLimit
  tally : t.tally.Fits
  max : t.max < Json.wordLimit
  min : t.min < Json.wordLimit

/-- The numbers of files are numbers of 64 bits: how many there are, the size of each, and their line totals,
which are the figures of all of them together. -/
structure FilesFit (files : List FileRecord) : Prop where
  count : files.length < Json.wordLimit
  size : ∀ file ∈ files, file.size < Json.wordLimit
  tally : (summarize files).total.tally.Fits

section Numbers

variable {files group : List FileRecord} {t : Totals} {file : FileRecord}

/-- A figure of some of the files is no more than that of all of them. -/
theorem sum_le_of_sublist (h : group.Sublist files) (figure : FileRecord → Nat) :
    (group.map figure).sum ≤ (files.map figure).sum :=
  (h.map figure).sum_le_sum fun _ _ => Nat.zero_le _

/-- The greatest and the least of some numbers are no more than their sum. -/
theorem extreme_le_sum {R : Nat → Nat → Prop} {f : List Nat → Nat} (hf : ∀ l ≠ [], Extreme R l (f l))
    (hempty : f [] = 0) (l : List Nat) : f l ≤ l.sum := by
  by_cases hne : l = []
  · rw [hne, hempty]
    exact Nat.zero_le _
  · exact List.le_sum_of_mem (hf l hne).1

/-- **What fits for all files fits for some of them**: the sums are no more, and neither are the most and the
fewest lines, since they are those of one file. -/
theorem FilesFit.totals_of_sublist (h : FilesFit files) (ht : t.Describes group)
    (hsub : group.Sublist files) : t.Fits := by
  have htotal := Totals.describes_ofFiles totalName files
  obtain ⟨hlines, hcode, hcomment, hblank⟩ := h.tally
  have hsum : (lineCounts group).sum < Json.wordLimit :=
    (htotal.lines ▸ sum_le_of_sublist hsub (·.tally.lines)).trans_lt hlines
  exact {
    files := by
      rw [ht.files]
      exact hsub.length_le.trans_lt h.count
    tally := {
      lines := by
        rw [ht.lines]
        exact hsum
      code := by
        rw [ht.code]
        exact (htotal.code ▸ sum_le_of_sublist hsub (·.tally.code)).trans_lt hcode
      comment := by
        rw [ht.comment]
        exact (htotal.comment ▸ sum_le_of_sublist hsub (·.tally.comment)).trans_lt hcomment
      blank := by
        rw [ht.blank]
        exact (htotal.blank ▸ sum_le_of_sublist hsub (·.tally.blank)).trans_lt hblank }
    max := by
      rw [ht.max]
      exact (extreme_le_sum extreme_max? rfl _).trans_lt hsum
    min := by
      rw [ht.min]
      exact (extreme_le_sum extreme_min? rfl _).trans_lt hsum }

theorem FilesFit.tally_of_mem (h : FilesFit files) (hfile : file ∈ files) : file.tally.Fits := by
  -- its totals are its own figures
  have halone : (Totals.mk file.language 1 file.tally file.tally.lines file.tally.lines).Describes [file] := by
    constructor <;> simp [lineCounts]
  exact (h.totals_of_sublist halone (List.singleton_sublist.mpr hfile)).tally

end Numbers

/-! ## Files and rows -/

section Records

open Report

variable {file : FileRecord} {t : Totals} {s : Summary}

/-- A path that is a text is displayed as it is. -/
theorem Path.display_of_isText {p : Path} (h : p.IsText) :
    p.text? = some p.display ∧ Path.ofString p.display = p := by
  obtain ⟨s, hs⟩ := isValidUTF8_iff.mp h
  have hdisplay : p.display = String.ofList s := by
    rw [Path.display, Text.decodeLossy, ← hs, pieces_encode, List.map_map]
    exact congrArg String.ofList (List.map_id s)
  rw [hdisplay]
  constructor
  · rw [Path.text?, decode?_eq_some_iff.mpr hs, Option.map_some]
  · rw [Path.ofString, String.toList_ofList, hs]

/-- The fields of a file, its path as it is displayed. -/
def fileFields (file : FileRecord) : List (String × Outline) :=
  [("path", .text file.path.display.toList), ("name", .text file.name.toList),
    ("ext", .text file.extension.toList), ("language", .text file.language.toList),
    ("size", .count file.size)] ++ tallyFields file.tally

theorem fileFields?_of_isText (h : file.path.IsText) : fileFields? file = some (fileFields file) := by
  rw [fileFields?, (Path.display_of_isText h).1, Option.map_some, fileFields]

/-- The figures of a tally are read back, wherever they stand. -/
theorem tallyOf?_of_fits {tally : Tally} (h : tally.Fits) {named : List (String × Json)}
    (hlines : named.lookup "lines" = some (Json.nat tally.lines))
    (hcode : named.lookup "code" = some (Json.nat tally.code))
    (hcomment : named.lookup "comment" = some (Json.nat tally.comment))
    (hblank : named.lookup "blank" = some (Json.nat tally.blank)) : tallyOf? named = some tally := by
  simp [tallyOf?, Definition.required?, hlines, hcode, hcomment, hblank, word?_nat, h.lines, h.code,
    h.comment, h.blank]

/-- **A file is read back.** -/
theorem ofJson?_fileFields (hpath : file.path.IsText) (hsize : file.size < Json.wordLimit)
    (htally : file.tally.Fits) : FileRecord.ofJson? (Outline.record (fileFields file)).toJson = some file := by
  have hread := fieldsOf?_record (["path", "name", "ext", "language", "size"] ++ tallyNames) (fileFields file)
    (by simp [fileFields, tallyFields]) (by simp [fileFields, tallyFields, tallyNames])
  have htallied : tallyOf? (Outline.byName (fileFields file)) = some file.tally :=
    tallyOf?_of_fits htally rfl rfl rfl rfl
  rw [FileRecord.ofJson?, Outline.toJson, recordOf?, ← Outline.toJson, hread]
  simp only [Option.bind_eq_bind, Option.bind_some, htallied]
  simp [Definition.required?_cons, Outline.byName, fileFields, tallyFields, Outline.toJson, word?_nat hsize, Json.text?,
    (Path.display_of_isText hpath).2]

/-- **A row is read back.** -/
theorem ofJson?_totalsFields (h : t.Fits) :
    Totals.ofJson? (Outline.record (totalsFields t)).toJson = some t := by
  have hread := fieldsOf?_record (["language", "files"] ++ tallyNames ++ ["avg", "max", "min"]) (totalsFields t)
    (by simp [totalsFields, tallyFields]) (by simp [totalsFields, tallyFields, tallyNames])
  have htallied : tallyOf? (Outline.byName (totalsFields t)) = some t.tally :=
    tallyOf?_of_fits h.tally rfl rfl rfl rfl
  rw [Totals.ofJson?, Outline.toJson, recordOf?, ← Outline.toJson, hread]
  simp only [Option.bind_eq_bind, Option.bind_some, htallied]
  simp [Definition.required?_cons, Outline.byName, totalsFields, tallyFields, Outline.toJson, word?_nat h.files,
    word?_nat h.max, word?_nat h.min, Json.text?, Json.number?]

/-- **A summary is read back.** -/
theorem ofJson?_summaryFields (hlanguages : ∀ row ∈ s.languages, row.Fits) (htotal : s.total.Fits) :
    Summary.ofJson? (Outline.record (summaryFields s)).toJson = some s := by
  have hread := fieldsOf?_record ["languages", "total"] (summaryFields s)
    (by simp [summaryFields]) (by simp [summaryFields])
  have hrows : Json.listOf? Totals.ofJson? (Outline.records (s.languages.map totalsFields)).toJson =
      some s.languages := by
    rw [Outline.toJson, Outline.itemsToJson_eq, List.map_map]
    exact listOf?_map fun row hrow => ofJson?_totalsFields (hlanguages row hrow)
  rw [Summary.ofJson?, hread]
  simp [Definition.required?_cons, Outline.byName, summaryFields, hrows, ofJson?_totalsFields htotal]

/-! ### Names -/

theorem distinctNames_fileFields (file : FileRecord) :
    (Outline.record (fileFields file)).toJson.DistinctNames := by
  refine Outline.distinctNames_record (by simp [fileFields, tallyFields]) ?_
  simp [fileFields, tallyFields, Outline.toJson, Json.nat, Json.DistinctNames.string,
    Json.DistinctNames.number]

theorem distinctNames_totalsFields (t : Totals) :
    (Outline.record (totalsFields t)).toJson.DistinctNames := by
  refine Outline.distinctNames_record (by simp [totalsFields, tallyFields]) ?_
  simp [totalsFields, tallyFields, Outline.toJson, Json.nat, Json.DistinctNames.string,
    Json.DistinctNames.number]

theorem distinctNames_summaryFields (s : Summary) :
    (Outline.record (summaryFields s)).toJson.DistinctNames := by
  refine Outline.distinctNames_record (by simp [summaryFields]) ?_
  have hrows : (Outline.records (s.languages.map totalsFields)).toJson.DistinctNames := by
    refine Outline.distinctNames_records fun item hitem => ?_
    obtain ⟨row, -, rfl⟩ := List.mem_map.mp hitem
    exact distinctNames_totalsFields row
  simp [summaryFields, hrows, distinctNames_totalsFields]

end Records

/-! ## Reports -/

/-- The value of a member of an object. -/
def Json.member? (name : String) : Json → Option Json
  | .object members => members.lookup (some name.toList)
  | _ => none

/-- What is found in a report on files: an object, with no name twice in any of its objects; the files in full
mode only, and then the sorted and cut ones; and the summary. -/
structure Report.Tells (v : Json) (config : Config) (files : List FileRecord) (summary : Json) : Prop where
  object : ∃ members, v = .object members
  distinct : v.DistinctNames
  mode : (v.member? "files").isSome ↔ config.mode = .full
  shown : ∀ items, v.member? "files" = some items →
    Json.listOf? FileRecord.ofJson? items = some (listed config.sort config.top files)
  summary : v.member? "summary" = some summary

section Reports

open Report

variable {files shown : List FileRecord}

theorem listed_subset (order : SortOrder) (top : Option Nat) (files : List FileRecord) :
    listed order top files ⊆ files := by
  have hsorted : order.apply files ⊆ files := (List.mergeSort_perm _ _).subset
  cases top with
  | none => exact hsorted
  | some n => exact List.Subset.trans (List.take_subset n _) hsorted

/-- The rows of a summary, and the row of all files, fit. -/
theorem FilesFit.rows (h : FilesFit files) :
    (∀ row ∈ (summarize files).languages, row.Fits) ∧ (summarize files).total.Fits := by
  have htabulates := tabulates_summarize files
  constructor
  · intro row hrow
    exact h.totals_of_sublist (htabulates.describes row hrow) List.filter_sublist
  · exact h.totals_of_sublist (Totals.describes_ofFiles totalName files) (.refl files)

/-- The value of the listed files. -/
def filesJson (shown : List FileRecord) : Json := (Outline.records (shown.map fileFields)).toJson

/-- The value of a summary. -/
def summaryJson (s : Summary) : Json := (Outline.record (summaryFields s)).toJson

/-- The value of a report. -/
def Report.toJson (r : Report) : Json :=
  .object ((r.files.map fun shown => (some "files".toList, filesJson shown)).toList ++
    [(some "summary".toList, summaryJson r.summary)])

/-- A report whose listed paths are texts is written as its value. -/
theorem render_json {r : Report} (locale : Locale) (h : ∀ shown ∈ r.files, ∀ file ∈ shown, file.path.IsText) :
    r.render .json locale = .ok (r.toJson.pretty ++ ['\n']) ∧ r.toJson.Proper := by
  have houtline : ∃ fields, r.outline? = some fields ∧ r.toJson = (Outline.record fields).toJson := by
    obtain ⟨files, summary⟩ := r
    cases files with
    | none => exact ⟨_, rfl, rfl⟩
    | some shown =>
      have hitems : shown.mapM fileFields? = some (shown.map fileFields) :=
        mapM_eq_some_map fun file hfile => fileFields?_of_isText (h shown rfl file hfile)
      refine ⟨[("files", .records (shown.map fileFields)), ("summary", .record (summaryFields summary))], ?_, rfl⟩
      simp [outline?, hitems]
  obtain ⟨fields, hfields, hvalue⟩ := houtline
  rw [hvalue]
  refine ⟨?_, Outline.proper_toJson _⟩
  rw [render]
  simp only [hfields]

/-- The listed files are read back from their value. -/
theorem listOf?_filesJson (hpaths : ∀ file ∈ files, file.path.IsText) (hfit : FilesFit files)
    (hshown : shown ⊆ files) : Json.listOf? FileRecord.ofJson? (filesJson shown) = some shown := by
  rw [filesJson, Outline.toJson, Outline.itemsToJson_eq, List.map_map]
  refine listOf?_map fun file hfile => ?_
  have hmem := hshown hfile
  exact ofJson?_fileFields (hpaths file hmem) (hfit.size file hmem) (hfit.tally_of_mem hmem)

theorem distinctNames_filesJson (shown : List FileRecord) : (filesJson shown).DistinctNames := by
  refine Outline.distinctNames_records fun item hitem => ?_
  obtain ⟨file, -, rfl⟩ := List.mem_map.mp hitem
  exact distinctNames_fileFields file

theorem tells_toJson (hpaths : ∀ file ∈ files, file.path.IsText) (hfit : FilesFit files) (config : Config) :
    Tells (of config.mode config.sort config.top files).toJson config files (summaryJson (summarize files)) := by
  have hread := listOf?_filesJson hpaths hfit (listed_subset config.sort config.top files)
  have hfiles := distinctNames_filesJson (listed config.sort config.top files)
  have hsummary := distinctNames_summaryFields (summarize files)
  have hnames : [some "files".toList, some "summary".toList].Nodup := by decide
  cases hmode : config.mode with
  | full =>
    exact {
      object := ⟨_, rfl⟩
      distinct := .object hnames
        (List.forall_mem_cons.mpr ⟨hfiles, List.forall_mem_singleton.mpr hsummary⟩)
      mode := iff_of_true rfl hmode
      shown := by
        intro items hitems
        obtain rfl : filesJson (listed config.sort config.top files) = items := Option.some.inj hitems
        exact hread
      summary := rfl }
  | summary =>
    exact {
      object := ⟨_, rfl⟩
      distinct := .object (List.nodup_singleton _) (List.forall_mem_singleton.mpr hsummary)
      mode := iff_of_false Bool.false_ne_true (by simp [hmode])
      shown := by
        intro items hitems
        cases hitems
      summary := rfl }

/-- **A report in JSON is read back.** The text is that of one object, in which no name stands twice anywhere.
The files are there in full mode only, and then they are those of the sorted and cut list, one by one and with
every field. The summary is that of all files: its value, averages included, is the same whatever files are
listed and in whatever order. -/
theorem Report.json_read_back (hpaths : ∀ file ∈ files, file.path.IsText) (hfit : FilesFit files) :
    ∃ summary, Summary.ofJson? summary = some (summarize files) ∧
      ∀ (config : Config) (locale : Locale), config.format = .json →
        ∃ text v, (Report.of config.mode config.sort config.top files).render config.format locale = .ok text ∧
          Json.parse? text = some v ∧ Report.Tells v config files summary := by
  obtain ⟨hrows, htotal⟩ := hfit.rows
  refine ⟨summaryJson (summarize files), ofJson?_summaryFields hrows htotal, ?_⟩
  intro config locale hformat
  have hlisted : ∀ shown ∈ (of config.mode config.sort config.top files).files,
      ∀ file ∈ shown, file.path.IsText := by
    intro shown hshown file hfile
    obtain ⟨-, rfl⟩ := mem_files_of.mp hshown
    exact hpaths file (listed_subset _ _ _ hfile)
  obtain ⟨hrender, hproper⟩ := render_json locale hlisted
  have hparse := Json.parse?_pretty hproper (List.forall_mem_singleton.mpr rfl : Json.IsBlank ['\n'])
  rw [hformat]
  exact ⟨_, _, hrender, hparse, tells_toJson hpaths hfit config⟩

/-- A file of the greatest size there is, whose name and language are written with escapes, and one past the
cut. -/
theorem Report.json_read_back_escapes :
    let hard : FileRecord := .of (.ofString "a\"\x01\n.rs") "C\\\u2028" (2 ^ 64 - 1) ⟨5, 3, 1, 1⟩
    let other : FileRecord := .of (.ofString "tests/\u00E9.rs") "Rust" 0 ⟨2, 2, 0, 0⟩
    let config : Config := { format := .json, sort := [⟨.lines, true⟩], top := some 1 }
    (∀ file ∈ [other, hard], file.path.IsText) ∧ FilesFit [other, hard] ∧
      ∃ text v items summary,
        (Report.of config.mode config.sort config.top [other, hard]).render .json .en = .ok text ∧
        Json.parse? text = some v ∧ v.member? "files" = some items ∧
        Json.listOf? FileRecord.ofJson? items = some [hard] ∧ v.member? "summary" = some summary ∧
        Summary.ofJson? summary = some (summarize [other, hard]) := by
  intro hard other config
  have hpaths : ∀ file ∈ [other, hard], file.path.IsText := by
    refine List.forall_mem_cons.mpr ⟨Path.isText_ofString _, List.forall_mem_singleton.mpr ?_⟩
    exact Path.isText_ofString _
  have hfit : FilesFit [other, hard] := {
    count := by decide
    size := List.forall_mem_cons.mpr ⟨by decide, List.forall_mem_singleton.mpr (by decide)⟩
    tally := ⟨by decide, by decide, by decide, by decide⟩ }
  have hbefore : config.sort.compare other hard = .gt := by decide
  have hlisted : listed config.sort config.top [other, hard] = [hard] := by
    simp [listed, SortOrder.apply, List.mergeSort, hbefore]
    rfl
  obtain ⟨summary, hsummary, hall⟩ := Report.json_read_back hpaths hfit
  obtain ⟨text, v, hrender, hparse, htells⟩ := hall config .en rfl
  obtain ⟨items, hitems⟩ := Option.isSome_iff_exists.mp (htells.mode.mpr rfl)
  exact ⟨hpaths, hfit, text, v, items, summary, hrender, hparse, hitems, hlisted ▸ htells.shown items hitems,
    htells.summary, hsummary⟩

end Reports

end LineCensus
