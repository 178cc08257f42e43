import LineCensus.Proofs.Sorting
import LineCensus.Proofs.Summary.Totals
import Mathlib.Data.List.Nodup
import Mathlib.Data.List.Perm.Basic
import Mathlib.Data.String.Basic

/-!
# `Proofs.Summary.Rows` — the rows of a summary

The files are grouped by language, and each group becomes a row. No file is lost or counted twice
(`perm_flatMap_group`), so the row of all files, which is taken from the files and not from the rows,
agrees with the rows.

In which order the languages are come upon is an accident, and so is the order of the files. Neither is
seen in the summary: rows are sorted by an order that tells rows of different languages apart, and totals
do not depend on the order of the files.

## Contents

* `Totals.Before` — the order of rows, and `Totals.compare_eq_lt_iff`;
* `rowsBy` — the rows for languages come upon in any order: ascending (`pairwise_before_rowsBy`), and the
  same for every order of the languages and of the files (`rowsBy_of_perm`);
* `perm_flatMap_group` — the groups hold every file once;
* `Summary.Tabulates`, `summarize_tabulates_any_order` — all that a summary says of the files.
-/

namespace LineCensus

/-! ## The order of rows -/

namespace Totals

variable {a b : Totals}

/-- More lines first; with as many lines, the lesser name first. -/
def Before (a b : Totals) : Prop :=
  b.tally.lines < a.tally.lines ∨ a.tally.lines = b.tally.lines ∧ a.language < b.language

theorem compare_eq_lt_iff : Totals.compare a b = .lt ↔ a.Before b := by
  unfold Totals.compare Before
  rw [Ordering.then_eq_lt, Nat.compare_eq_lt, Nat.compare_eq_eq, Std.LawfulLTCmp.eq_lt_iff_lt,
    eq_comm (a := b.tally.lines)]

-- rows are compared by one key after the other, the first one downwards
instance : Std.TransCmp Totals.compare :=
  inferInstanceAs (Std.TransCmp (compareLex (fun a b => compareOn (fun t : Totals => t.tally.lines) b a)
    (compareOn Totals.language)))

/-- Rows of different languages are told apart. -/
theorem before_of_isLE (h : (Totals.compare a b).isLE) (hne : a.language ≠ b.language) : a.Before b := by
  rw [← compare_eq_lt_iff]
  cases hcompare : Totals.compare a b with
  | lt => rfl
  | eq =>
    rw [Totals.compare, Ordering.then_eq_eq] at hcompare
    exact absurd (Std.LawfulEqOrd.eq_of_compare hcompare.2) hne
  | gt => rw [hcompare] at h; cases h

theorem Before.asymm (hab : a.Before b) : ¬ b.Before a := by
  intro hba
  rw [← compare_eq_lt_iff] at hab hba
  exact Std.OrientedCmp.not_lt_of_lt hab hba

end Totals

/-! ## Rows -/

section Rows

variable {files files' : List FileRecord} {names names' : List String} {row : Totals}

/-- The files of a language. -/
def group (files : List FileRecord) (language : String) : List FileRecord :=
  files.filter (·.language == language)

/-- The rows of languages, come upon in this order. -/
def rowsBy (names : List String) (files : List FileRecord) : List Totals :=
  (names.map fun language => Totals.ofFiles language (group files language)).mergeSort
    fun a b => (Totals.compare a b).isLE

theorem languages_summarize (files : List FileRecord) :
    (summarize files).languages = rowsBy (languagesOf files) files := rfl

theorem mem_group {file : FileRecord} {language : String} :
    file ∈ group files language ↔ file ∈ files ∧ file.language = language := by
  rw [group, List.mem_filter, beq_iff_eq]

/-- Each row is the totals of the files of its language, one of the given. -/
theorem mem_rowsBy : row ∈ rowsBy names files ↔
    row.language ∈ names ∧ row = Totals.ofFiles row.language (group files row.language) := by
  rw [rowsBy, List.mem_mergeSort, List.mem_map]
  constructor
  · rintro ⟨language, hmem, rfl⟩
    rw [Totals.language_ofFiles]
    exact ⟨hmem, rfl⟩
  · rintro ⟨hmem, hrow⟩
    exact ⟨row.language, hmem, hrow.symm⟩

theorem perm_language_rowsBy (names : List String) (files : List FileRecord) :
    ((rowsBy names files).map Totals.language).Perm names := by
  have hnames : (names.map fun language => Totals.ofFiles language (group files language)).map
      Totals.language = names := by
    rw [List.map_map]
    exact List.map_id'' (fun language => Totals.language_ofFiles language _) names
  exact ((List.mergeSort_perm _ _).map Totals.language).trans (.of_eq hnames)

/-- **Rows of different languages ascend**, with no two alike. -/
theorem pairwise_before_rowsBy (h : names.Nodup) : (rowsBy names files).Pairwise Totals.Before := by
  have hsorted : (rowsBy names files).Pairwise fun a b => (Totals.compare a b).isLE :=
    pairwise_isLE_mergeSort _
  have hdistinct : (rowsBy names files).Pairwise fun a b => a.language ≠ b.language :=
    List.pairwise_map.mp ((perm_language_rowsBy names files).nodup_iff.mpr h)
  exact (hsorted.and hdistinct).imp fun hab => Totals.before_of_isLE hab.1 hab.2

/-- **Neither the order of the languages nor that of the files is seen in the rows.** -/
theorem rowsBy_of_perm (hnodup : names.Nodup) (hnames : names.Perm names') (hfiles : files.Perm files') :
    rowsBy names files = rowsBy names' files' := by
  have hrow : ∀ language, Totals.ofFiles language (group files language) =
      Totals.ofFiles language (group files' language) := by
    intro language
    exact Totals.ofFiles_of_perm language (hfiles.filter _)
  have hperm : (rowsBy names files).Perm (rowsBy names' files') := by
    unfold rowsBy
    simp only [hrow]
    exact ((List.mergeSort_perm _ _).trans (hnames.map _)).trans (List.mergeSort_perm _ _).symm
  refine hperm.eq_of_pairwise ?_ (pairwise_before_rowsBy hnodup)
    (pairwise_before_rowsBy (hnames.nodup_iff.mp hnodup))
  intro a b _ _ hab hba
  exact absurd hba hab.asymm

/-! ## Groups -/

theorem nodup_eraseDups (l : List String) : l.eraseDups.Nodup := by
  -- on the length: what is left after a string holds no more of it
  induction hn : l.length using Nat.strongRecOn generalizing l with
  | ind n ih =>
    cases l with
    | nil => exact List.nodup_nil
    | cons s l =>
      rw [List.eraseDups_cons, List.nodup_cons]
      refine ⟨by simp, ih _ ?_ _ rfl⟩
      have hle := List.length_filter_le (fun s' => !s' == s) l
      rw [List.length_cons] at hn
      omega

theorem nodup_languagesOf (files : List FileRecord) : (languagesOf files).Nodup :=
  nodup_eraseDups _

theorem mem_languagesOf {language : String} :
    language ∈ languagesOf files ↔ ∃ file ∈ files, file.language = language := by
  rw [languagesOf, List.mem_eraseDups, List.mem_map]

/-- **The groups hold every file once**, if each language is among the names, once. -/
theorem perm_flatMap_group (hnodup : names.Nodup) (hfiles : ∀ file ∈ files, file.language ∈ names) :
    (names.flatMap (group files)).Perm files := by
  -- on the names: the files of the first one stand in front, those of the others make up the rest
  induction names generalizing files with
  | nil =>
    have hempty : files = [] := List.eq_nil_iff_forall_not_mem.mpr fun file hmem =>
      List.not_mem_nil (hfiles file hmem)
    rw [hempty]
    exact .refl _
  | cons name names ih =>
    obtain ⟨hname, hnames⟩ := List.nodup_cons.mp hnodup
    have hrest : (names.flatMap (group (files.filter fun file => !file.language == name))).Perm
        (files.filter fun file => !file.language == name) := by
      refine ih hnames ?_
      intro file hmem
      rw [List.mem_filter] at hmem
      rcases List.mem_cons.mp (hfiles file hmem.1) with heq | hother
      · simp [heq] at hmem
      · exact hother
    have hsame : names.flatMap (group (files.filter fun file => !file.language == name)) =
        names.flatMap (group files) := by
      refine List.flatMap_congr ?_
      intro other hmem
      have hne : other ≠ name := fun heq => hname (heq ▸ hmem)
      rw [group, List.filter_filter]
      refine List.filter_congr ?_
      intro file _
      by_cases hlanguage : file.language = other <;> simp [hlanguage, hne]
    rw [hsame] at hrest
    rw [List.flatMap_cons]
    exact (hrest.append_left _).trans (List.filter_append_perm _ _)

end Rows

/-! ## Summaries -/

/-- What a summary says of the files: one row for each of their languages, which describes the files of
the language, in strictly ascending order; and the row of all files, which the rows come to together. -/
structure Summary.Tabulates (s : Summary) (files : List FileRecord) : Prop where
  nodup : (s.languages.map Totals.language).Nodup
  languages : ∀ language,
    language ∈ s.languages.map Totals.language ↔ ∃ file ∈ files, file.language = language
  describes : ∀ row ∈ s.languages, row.Describes (files.filter (·.language = row.language))
  bounds : ∀ row ∈ s.languages,
    row.min * row.files ≤ row.tally.lines ∧ row.tally.lines ≤ row.max * row.files
  ascending : s.languages.Pairwise Totals.Before
  total : s.total.Combines s.languages

theorem tabulates_summarize (files : List FileRecord) : (summarize files).Tabulates files := by
  have hperm : ((summarize files).languages.map Totals.language).Perm (languagesOf files) :=
    perm_language_rowsBy _ _
  have hdescribes : ∀ row ∈ (summarize files).languages, row.Describes (group files row.language) := by
    intro row hmem
    rw [languages_summarize, mem_rowsBy] at hmem
    have hrow := Totals.describes_ofFiles row.language (group files row.language)
    rwa [← hmem.2] at hrow
  have hne : ∀ row ∈ (summarize files).languages, group files row.language ≠ [] := by
    intro row hmem
    obtain ⟨file, hfile, hlanguage⟩ := mem_languagesOf.mp (hperm.subset (List.mem_map_of_mem hmem))
    exact List.ne_nil_of_mem (mem_group.mpr ⟨hfile, hlanguage⟩)
  have hgroups : ((summarize files).languages.flatMap fun row => group files row.language).Perm files := by
    rw [← List.flatMap_map (f := Totals.language)]
    refine perm_flatMap_group (hperm.nodup_iff.mpr (nodup_languagesOf files)) ?_
    intro file hmem
    exact hperm.symm.subset (mem_languagesOf.mpr ⟨file, hmem, rfl⟩)
  exact {
    nodup := hperm.nodup_iff.mpr (nodup_languagesOf files)
    languages := fun language => hperm.mem_iff.trans mem_languagesOf
    describes := hdescribes
    bounds := fun row hmem => (hdescribes row hmem).bounds
    ascending := pairwise_before_rowsBy (nodup_languagesOf files)
    total := (Totals.describes_ofFiles totalName files).combines hgroups hdescribes hne }

theorem summarize_of_perm {files files' : List FileRecord} (h : files.Perm files') :
    summarize files = summarize files' := by
  have hlanguages : (languagesOf files).Perm (languagesOf files') := by
    refine (List.perm_ext_iff_of_nodup (nodup_languagesOf files) (nodup_languagesOf files')).mpr ?_
    intro language
    rw [mem_languagesOf, mem_languagesOf]
    exact ⟨fun ⟨file, hmem, heq⟩ => ⟨file, h.subset hmem, heq⟩,
      fun ⟨file, hmem, heq⟩ => ⟨file, h.symm.subset hmem, heq⟩⟩
  have hrows : (summarize files).languages = (summarize files').languages :=
    rowsBy_of_perm (nodup_languagesOf files) hlanguages h
  have htotal : (summarize files).total = (summarize files').total := Totals.ofFiles_of_perm totalName h
  unfold summarize at hrows htotal ⊢
  rw [Summary.mk.injEq]
  exact ⟨hrows, htotal⟩

/-- **A summary tabulates the files by language**, whatever order the languages are come upon in, and
whatever order the files are given in. Of no file there are no rows, and all totals are zero. -/
theorem summarize_tabulates_any_order (files : List FileRecord) :
    (summarize files).Tabulates files ∧
    (∀ names : List String, names.Nodup →
      (∀ language, language ∈ names ↔ ∃ file ∈ files, file.language = language) →
      rowsBy names files = (summarize files).languages) ∧
    (∀ files', files.Perm files' → summarize files' = summarize files) ∧
    summarize [] = ⟨[], Totals.zero totalName⟩ ∧ (Totals.zero totalName).average = ⟨0, 0⟩ := by
  refine ⟨tabulates_summarize files, ?_, fun files' h => (summarize_of_perm h).symm, ?_, rfl⟩
  · intro names hnodup hnames
    have hperm : names.Perm (languagesOf files) :=
      (List.perm_ext_iff_of_nodup hnodup (nodup_languagesOf files)).mpr fun language =>
        (hnames language).trans mem_languagesOf.symm
    exact rowsBy_of_perm hnodup hperm (.refl files)
  · rw [summarize, Summary.mk.injEq]
    exact ⟨List.mergeSort_nil, rfl⟩

/-- Two languages with as many lines, one of which has a file without any. -/
theorem summarize_tabulates_any_order_ties :
    let files : List FileRecord := [.of (.ofString "a.rs") "Rust" 9 ⟨4, 3, 1, 0⟩,
      .of (.ofString "b.rs") "Rust" 0 {}, .of (.ofString "c.py") "Python" 8 ⟨4, 4, 0, 0⟩]
    ["Rust", "Python"].Nodup ∧
      (∀ language, language ∈ ["Rust", "Python"] ↔ ∃ file ∈ files, file.language = language) ∧
      files.Perm files.reverse ∧
      rowsBy ["Rust", "Python"] files = (summarize files).languages ∧
      summarize files.reverse = summarize files ∧
      (summarize files).languages =
        [⟨"Python", 1, ⟨4, 4, 0, 0⟩, 4, 4⟩, ⟨"Rust", 2, ⟨4, 3, 1, 0⟩, 4, 0⟩] := by
  intro files
  have hnodup : ["Rust", "Python"].Nodup := by decide
  have hnames : ∀ language,
      language ∈ ["Rust", "Python"] ↔ ∃ file ∈ files, file.language = language := by
    intro language
    simp [files, FileRecord.of, eq_comm]
  have hperm : files.Perm files.reverse := (List.reverse_perm files).symm
  obtain ⟨-, hrows, horder, -⟩ := summarize_tabulates_any_order files
  refine ⟨hnodup, hnames, hperm, hrows _ hnodup hnames, horder _ hperm, ?_⟩
  have hsorted : rowsBy ["Python", "Rust"] files =
      [⟨"Python", 1, ⟨4, 4, 0, 0⟩, 4, 4⟩, ⟨"Rust", 2, ⟨4, 3, 1, 0⟩, 4, 0⟩] :=
    List.mergeSort_of_pairwise (by decide)
  rw [← hrows _ hnodup hnames]
  exact (rowsBy_of_perm hnodup (.swap _ _ _) (.refl files)).trans hsorted

end LineCensus
