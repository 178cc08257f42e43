import LineCensus.Summary
import Mathlib.Algebra.GroupWithZero.Nat
import Mathlib.Algebra.Order.BigOperators.Group.List
import Mathlib.Algebra.Order.Group.Nat

/-!
# `Proofs.Summary.Totals` — what the totals of a group of files say

Totals are taken file by file. What they come to is a statement about the whole group: how many files there
are, the sum of each figure, the most and the fewest lines. The fewest lines are the delicate part, since
zero stands for "no file yet" and may be the lines of a file as well; the number of files tells the two
apart.

If a list of files is cut into groups, the totals of all of them can be read off the totals of the groups
alone (`Totals.Describes.combines`). This needs every group to have a file: an empty one would count among
the fewest lines.

## Contents

* `Extreme` — the greatest or the least of some numbers, which neither their order nor a cut into parts
  changes (`extreme_eq_of_perm`, `extreme_eq_of_parts`);
* `lineCounts` — the lines of each file;
* `Totals.Describes` — the totals of a group, kept by one more file (`Totals.Describes.add`), so true of
  `Totals.ofFiles`; `Totals.Describes.bounds`;
* `Totals.Combines` — totals that are those of some rows together.
-/

namespace LineCensus

/-! ## The greatest and the least of some numbers -/

section Extremes

variable {l m : List Nat} {n : Nat}

theorem max?_getD_concat : (l ++ [n]).max?.getD 0 = Nat.max (l.max?.getD 0) n := by
  cases l with
  | nil => exact (Nat.zero_max n).symm
  | cons a l =>
    rw [List.cons_append, List.max?_cons', List.max?_cons', List.foldl_append]
    rfl

theorem min?_getD_concat (hne : l ≠ []) : (l ++ [n]).min?.getD 0 = Nat.min (l.min?.getD 0) n := by
  cases l with
  | nil => exact absurd rfl hne
  | cons a l =>
    rw [List.cons_append, List.min?_cons', List.min?_cons', List.foldl_append]
    rfl

/-- A number of a list that every one of them comes before. -/
def Extreme (R : Nat → Nat → Prop) (l : List Nat) (n : Nat) : Prop := n ∈ l ∧ ∀ a ∈ l, R a n

theorem extreme_max? (l : List Nat) (hne : l ≠ []) : Extreme (· ≤ ·) l (l.max?.getD 0) := by
  cases hmax : l.max? with
  | none => exact absurd (List.max?_eq_none_iff.mp hmax) hne
  | some greatest => exact List.max?_eq_some_iff.mp hmax

theorem extreme_min? (l : List Nat) (hne : l ≠ []) : Extreme (· ≥ ·) l (l.min?.getD 0) := by
  cases hmin : l.min? with
  | none => exact absurd (List.min?_eq_none_iff.mp hmin) hne
  | some least => exact List.min?_eq_some_iff.mp hmin

variable {R : Nat → Nat → Prop}

theorem Extreme.unique [Std.Antisymm R] {n' : Nat} (h : Extreme R l n) (h' : Extreme R l n') : n = n' :=
  Std.Antisymm.antisymm n n' (h'.2 n h.1) (h.2 n' h'.1)

theorem Extreme.of_perm (h : Extreme R l n) (hperm : l.Perm m) : Extreme R m n :=
  ⟨hperm.subset h.1, fun a ha => h.2 a (hperm.symm.subset ha)⟩

variable {f : List Nat → Nat}

/-- The extreme of a list does not depend on its order. -/
theorem extreme_eq_of_perm [Std.Antisymm R] (hf : ∀ l ≠ [], Extreme R l (f l)) (h : l.Perm m) :
    f l = f m := by
  by_cases hl : l = []
  · subst hl
    rw [List.nil_perm.mp h]
  · have hm : m ≠ [] := fun hm => hl (List.perm_nil.mp (hm ▸ h))
    exact ((hf l hl).of_perm h).unique (hf m hm)

/-- The extreme of a list that is cut into parts is that of the extremes of the parts. -/
theorem extreme_eq_of_parts {α : Type} [Std.Antisymm R] [IsTrans Nat R]
    (hf : ∀ l ≠ [], Extreme R l (f l)) {rows : List α} {part : α → List Nat} {value : α → Nat}
    (hparts : (rows.flatMap part).Perm l) (hne : ∀ row ∈ rows, part row ≠ [])
    (hvalue : ∀ row ∈ rows, value row = f (part row)) : f l = f (rows.map value) := by
  by_cases hempty : rows = []
  · rw [hempty, List.flatMap_nil] at hparts
    rw [List.nil_perm.mp hparts, hempty, List.map_nil]
  have hpart : ∀ row ∈ rows, Extreme R (part row) (value row) := by
    intro row hrow
    rw [hvalue row hrow]
    exact hf _ (hne row hrow)
  have hrows : Extreme R (rows.map value) (f (rows.map value)) := hf _ (by simpa using hempty)
  have hall : Extreme R (rows.flatMap part) (f (rows.map value)) := by
    obtain ⟨row, hrow, hbest⟩ := List.mem_map.mp hrows.1
    constructor
    · rw [← hbest]
      exact List.mem_flatMap_of_mem hrow (hpart row hrow).1
    · intro a ha
      obtain ⟨other, hother, hmem⟩ := List.mem_flatMap.mp ha
      exact IsTrans.trans _ _ _ ((hpart other hother).2 a hmem) (hrows.2 _ (List.mem_map_of_mem hother))
  have hl : l ≠ [] := List.ne_nil_of_mem (hparts.subset hall.1)
  exact (hf l hl).unique (hall.of_perm hparts)

end Extremes

/-! ## Groups of files -/

/-- The lines of each file. -/
def lineCounts (files : List FileRecord) : List Nat := files.map (·.tally.lines)

namespace Totals

variable {t : Totals} {group : List FileRecord}

/-- What the totals of a group of files are: its size, the sum of each figure, and the most and the fewest
lines of a file, zero if there is none. -/
structure Describes (t : Totals) (group : List FileRecord) : Prop where
  files : t.files = group.length
  lines : t.tally.lines = (lineCounts group).sum
  code : t.tally.code = (group.map (·.tally.code)).sum
  comment : t.tally.comment = (group.map (·.tally.comment)).sum
  blank : t.tally.blank = (group.map (·.tally.blank)).sum
  max : t.max = (lineCounts group).max?.getD 0
  min : t.min = (lineCounts group).min?.getD 0

theorem describes_zero (language : String) : (zero language).Describes [] :=
  ⟨rfl, rfl, rfl, rfl, rfl, rfl, rfl⟩

/-- One file more. -/
theorem Describes.add (h : t.Describes group) (file : FileRecord) :
    (t.add file).Describes (group ++ [file]) where
  files := by rw [Totals.add, h.files, List.length_append, List.length_singleton]
  lines := by simp [Totals.add, h.lines, lineCounts]
  code := by simp [Totals.add, h.code]
  comment := by simp [Totals.add, h.comment]
  blank := by simp [Totals.add, h.blank]
  max := by
    have hcounts : lineCounts (group ++ [file]) = lineCounts group ++ [file.tally.lines] := by
      simp [lineCounts]
    rw [hcounts, max?_getD_concat, ← h.max]
    rfl
  min := by
    have hcounts : lineCounts (group ++ [file]) = lineCounts group ++ [file.tally.lines] := by
      simp [lineCounts]
    rw [hcounts]
    by_cases hempty : group = []
    · -- the first file: the zero that stands for "none yet" is not compared with
      have hfiles : t.files = 0 := by rw [h.files, hempty, List.length_nil]
      simp [Totals.add, hfiles, hempty, lineCounts]
    · have hfiles : t.files ≠ 0 := by
        rw [h.files]
        exact fun hlength => hempty (List.length_eq_zero_iff.mp hlength)
      have hcountsne : lineCounts group ≠ [] := by simpa [lineCounts] using hempty
      rw [min?_getD_concat hcountsne, ← h.min]
      exact if_neg hfiles

/-- Further files, one after the other. -/
theorem Describes.foldl_add (h : t.Describes group) (files : List FileRecord) :
    (files.foldl Totals.add t).Describes (group ++ files) := by
  induction files generalizing t group with
  | nil => simpa using h
  | cons file files ih =>
    have hnext : (files.foldl Totals.add (t.add file)).Describes (group ++ [file] ++ files) := ih (h.add file)
    simpa using hnext

theorem describes_ofFiles (language : String) (files : List FileRecord) :
    (ofFiles language files).Describes files :=
  (describes_zero language).foldl_add files

@[simp] theorem language_foldl_add (files : List FileRecord) (t : Totals) :
    (files.foldl Totals.add t).language = t.language := by
  induction files generalizing t with
  | nil => rfl
  | cons file files ih => exact ih (t.add file)

@[simp] theorem language_ofFiles (language : String) (files : List FileRecord) :
    (ofFiles language files).language = language :=
  language_foldl_add files (zero language)

/-- The totals of a group do not depend on the order of its files. -/
theorem Describes.of_perm {group' : List FileRecord} (h : t.Describes group) (hperm : group.Perm group') :
    t.Describes group' where
  files := h.files.trans hperm.length_eq
  lines := h.lines.trans (hperm.map _).sum_eq
  code := h.code.trans (hperm.map _).sum_eq
  comment := h.comment.trans (hperm.map _).sum_eq
  blank := h.blank.trans (hperm.map _).sum_eq
  max := h.max.trans (extreme_eq_of_perm extreme_max? (hperm.map _))
  min := h.min.trans (extreme_eq_of_perm extreme_min? (hperm.map _))

/-- A group and a name leave no choice. -/
theorem Describes.unique {t' : Totals} (h : t.Describes group) (h' : t'.Describes group)
    (hlanguage : t.language = t'.language) : t = t' := by
  obtain ⟨language, files, ⟨lines, code, comment, blank⟩, max, min⟩ := t
  obtain ⟨language', files', ⟨lines', code', comment', blank'⟩, max', min'⟩ := t'
  simp only [mk.injEq, Tally.mk.injEq]
  exact ⟨hlanguage, h.files.trans h'.files.symm, ⟨h.lines.trans h'.lines.symm, h.code.trans h'.code.symm,
    h.comment.trans h'.comment.symm, h.blank.trans h'.blank.symm⟩, h.max.trans h'.max.symm,
    h.min.trans h'.min.symm⟩

theorem ofFiles_of_perm {files files' : List FileRecord} (language : String) (h : files.Perm files') :
    ofFiles language files = ofFiles language files' :=
  ((describes_ofFiles language files).of_perm h).unique (describes_ofFiles language files') (by simp)

/-- The lines lie between the number of files times the fewest and times the most. -/
theorem Describes.bounds (h : t.Describes group) :
    t.min * t.files ≤ t.tally.lines ∧ t.tally.lines ≤ t.max * t.files := by
  have hlength : (lineCounts group).length = t.files := by rw [h.files, lineCounts, List.length_map]
  rw [h.lines, ← hlength, Nat.mul_comm t.min, Nat.mul_comm t.max]
  by_cases hne : lineCounts group = []
  · simp [hne]
  · constructor
    · refine List.card_nsmul_le_sum _ _ ?_
      rw [h.min]
      exact (extreme_min? _ hne).2
    · refine List.sum_le_card_nsmul _ _ ?_
      rw [h.max]
      exact (extreme_max? _ hne).2

/-! ## Totals of totals -/

/-- Totals that are those of some rows together: files and figures added, the most and the fewest lines
of any row, zero if there is none. -/
structure Combines (total : Totals) (rows : List Totals) : Prop where
  files : total.files = (rows.map (·.files)).sum
  lines : total.tally.lines = (rows.map (·.tally.lines)).sum
  code : total.tally.code = (rows.map (·.tally.code)).sum
  comment : total.tally.comment = (rows.map (·.tally.comment)).sum
  blank : total.tally.blank = (rows.map (·.tally.blank)).sum
  max : total.max = (rows.map (·.max)).max?.getD 0
  min : total.min = (rows.map (·.min)).min?.getD 0

section Groups

variable {total : Totals} {files : List FileRecord} {rows : List Totals}
  {group : Totals → List FileRecord}

/-- A figure of all files is the sum of those of the groups. -/
theorem sum_of_groups (hgroups : (rows.flatMap group).Perm files) {figure : FileRecord → Nat}
    {value : Totals → Nat} (h : ∀ row ∈ rows, value row = ((group row).map figure).sum) :
    (files.map figure).sum = (rows.map value).sum := by
  rw [← (hgroups.map figure).sum_eq, List.map_flatMap, List.flatMap_def, List.sum_flatten, List.map_map]
  exact congrArg List.sum (List.map_congr_left fun row hmem => (h row hmem).symm)

/-- **The totals of all files are those of the groups together**, if every group has a file. -/
theorem Describes.combines (htotal : total.Describes files) (hgroups : (rows.flatMap group).Perm files)
    (hrows : ∀ row ∈ rows, row.Describes (group row)) (hne : ∀ row ∈ rows, group row ≠ []) :
    total.Combines rows := by
  have hlength : ∀ l : List FileRecord, l.length = (l.map fun _ => 1).sum := by simp
  have hcounts : (rows.flatMap fun row => lineCounts (group row)).Perm (lineCounts files) := by
    have hmap := hgroups.map (·.tally.lines)
    rwa [List.map_flatMap] at hmap
  have hcountsne : ∀ row ∈ rows, lineCounts (group row) ≠ [] := by
    intro row hrow
    simpa [lineCounts] using hne row hrow
  exact {
    files := by
      rw [htotal.files, hlength]
      exact sum_of_groups hgroups fun row hmem => (hrows row hmem).files.trans (hlength _)
    lines := htotal.lines.trans (sum_of_groups hgroups fun row hmem => (hrows row hmem).lines)
    code := htotal.code.trans (sum_of_groups hgroups fun row hmem => (hrows row hmem).code)
    comment := htotal.comment.trans (sum_of_groups hgroups fun row hmem => (hrows row hmem).comment)
    blank := htotal.blank.trans (sum_of_groups hgroups fun row hmem => (hrows row hmem).blank)
    max := htotal.max.trans
      (extreme_eq_of_parts extreme_max? hcounts hcountsne fun row hmem => (hrows row hmem).max)
    min := htotal.min.trans
      (extreme_eq_of_parts extreme_min? hcounts hcountsne fun row hmem => (hrows row hmem).min) }

end Groups

end Totals

end LineCensus
