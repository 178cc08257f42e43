import LineCensus.Proofs.Line.Kind
import LineCensus.Proofs.Summary.Rows
import LineCensus.Proofs.Text.Lines

/-!
# `Proofs.Tally.Balance` — the figures of a tally fit together

Each line is recorded once, under one kind, so the lines of a tally are its lines of code, of comment and
blank lines taken together. Adding tallies keeps this (`Tally.Balanced.add`), and therefore the rows of a
summary have it too, whatever order and grouping the files are added in.

What the single figures of a tally are is said of the lines themselves: which lines there are by where they
are cut (`LinesOfText`, `LinesOfFile`), their kinds by the lexer that reads them character by character, and
how many are blank by the white space on them and by what is open before them.

## Contents

* `Tally.Balanced` — kept by recording a line and by adding, so true of tallies and of totals;
* `Tally.figure`, `Tally.figure_foldl_record` — the figure of a kind, line by line;
* `Tally.Describes` — what the figures of some lines are, and `countLines_describes`;
* `Tally.Sums` — tallies taken together, and `Tally.sum_sums`;
* `FileRecord.Counted`, `Totals.tally_ofFiles` — files, and the rows of their summary;
* `tallies_balanced` — files, texts and summaries.
-/

namespace LineCensus

open Text

namespace Tally

/-- The lines of each kind add up to the lines. -/
def Balanced (t : Tally) : Prop := t.lines = t.code + t.comment + t.blank

variable {s t : Tally}

theorem balanced_zero : Balanced {} := rfl

/-- One line more is one line more of its kind. -/
theorem Balanced.record (h : t.Balanced) (kind : LineKind) : (t.record kind).Balanced := by
  unfold Balanced at h ⊢
  cases kind <;> simp only [Tally.record] <;> omega

theorem Balanced.add (hs : s.Balanced) (ht : t.Balanced) : (s + t).Balanced := by
  unfold Balanced at hs ht ⊢
  rw [lines_add, code_add, comment_add, blank_add]
  omega

/-- Lines recorded one after the other. -/
theorem Balanced.foldl_record (h : t.Balanced) (kinds : List LineKind) :
    (kinds.foldl Tally.record t).Balanced := by
  induction kinds generalizing t with
  | nil => exact h
  | cons kind kinds ih => exact ih (h.record kind)

theorem lines_foldl_record (kinds : List LineKind) :
    (kinds.foldl Tally.record t).lines = t.lines + kinds.length := by
  induction kinds generalizing t with
  | nil => rfl
  | cons kind kinds ih =>
    have hkind : (t.record kind).lines = t.lines + 1 := by cases kind <;> rfl
    rw [List.foldl_cons, ih, hkind, List.length_cons]
    omega

/-- The number of lines of a kind. -/
def figure (kind : LineKind) (t : Tally) : Nat :=
  match kind with
  | .code => t.code
  | .comment => t.comment
  | .blank => t.blank

theorem figure_record (kind recorded : LineKind) :
    figure kind (t.record recorded) = figure kind t + if recorded == kind then 1 else 0 := by
  cases kind <;> cases recorded <;> rfl

theorem figure_foldl_record (kind : LineKind) (kinds : List LineKind) :
    figure kind (kinds.foldl Tally.record t) = figure kind t + kinds.count kind := by
  induction kinds generalizing t with
  | nil => rfl
  | cons recorded kinds ih =>
    rw [List.foldl_cons, ih, figure_record, List.count_cons]
    omega

theorem figure_ofKinds (kind : LineKind) (kinds : List LineKind) :
    figure kind (ofKinds kinds) = kinds.count kind := by
  have hzero : figure kind {} = 0 := by cases kind <;> rfl
  rw [ofKinds, figure_foldl_record, hzero, Nat.zero_add]

end Tally

/-! ## Lines -/

/-- What a tally says of the lines of a file: how many there are, that they add up, and how many the lexer
takes for code and for comment. The blank ones are those that hold white space only and are reached with no
block comment open, and no other line is. -/
structure Tally.Describes (t : Tally) (cs : List Construct) (all : List (List Char)) : Prop where
  lines : t.lines = all.length
  balanced : t.lines = t.code + t.comment + t.blank
  code : t.code = (Lexer.kinds cs none all).count .code
  comment : t.comment = (Lexer.kinds cs none all).count .comment
  blank : t.blank = blankLines cs none all
  nonblank : ∀ line kind, (line, kind) ∈ all.zip (Lexer.kinds cs none all) →
    (∃ c ∈ line, ¬ WhiteSpace c) → kind ≠ .blank

theorem countLines_describes (cs : List Construct) (lines : List (List Char)) :
    (countLines cs none lines).Describes cs lines := by
  have hkinds : kindsOf cs none lines = Lexer.kinds cs none lines := kindsOf_eq_kinds (by simp) lines
  have hfigure (kind : LineKind) :
      (countLines cs none lines).figure kind = (Lexer.kinds cs none lines).count kind := by
    rw [countLines, hkinds, Tally.figure_ofKinds]
  exact {
    lines := by
      rw [countLines, Tally.ofKinds, Tally.lines_foldl_record, length_kindsOf]
      exact Nat.zero_add _
    balanced := Tally.balanced_zero.foldl_record _
    code := hfigure .code
    comment := hfigure .comment
    blank := (hfigure .blank).trans (Lexer.count_blank_kinds lines)
    nonblank := fun _ _ hmem hline => Lexer.ne_blank_of_mem_zip hmem hline }

/-- A character has a byte or more. -/
theorem length_le_byteLength (s : List Char) : s.length ≤ byteLength s := by
  induction s with
  | nil => exact Nat.le_refl 0
  | cons c s ih =>
    have := c.utf8Size_pos
    rw [List.length_cons, byteLength_cons]
    omega

/-! ## Tallies taken together -/

/-- A tally that is that of some tallies together, figure by figure. -/
structure Tally.Sums (t : Tally) (tallies : List Tally) : Prop where
  lines : t.lines = (tallies.map Tally.lines).sum
  code : t.code = (tallies.map Tally.code).sum
  comment : t.comment = (tallies.map Tally.comment).sum
  blank : t.blank = (tallies.map Tally.blank).sum

namespace Tally

variable {s t : Tally} {tallies : List Tally}

/-- A figure that addition adds is added along a list. -/
theorem foldl_add_eq {figure : Tally → Nat} (hadd : ∀ s t, figure (s + t) = figure s + figure t)
    (t : Tally) (tallies : List Tally) :
    figure (tallies.foldl (· + ·) t) = figure t + (tallies.map figure).sum := by
  induction tallies generalizing t with
  | nil => rfl
  | cons s tallies ih => rw [List.foldl_cons, ih, hadd, List.map_cons, List.sum_cons, Nat.add_assoc]

theorem sum_sums (tallies : List Tally) : (sum tallies).Sums tallies where
  lines := (foldl_add_eq (fun _ _ => lines_add) {} tallies).trans (Nat.zero_add _)
  code := (foldl_add_eq (fun _ _ => code_add) {} tallies).trans (Nat.zero_add _)
  comment := (foldl_add_eq (fun _ _ => comment_add) {} tallies).trans (Nat.zero_add _)
  blank := (foldl_add_eq (fun _ _ => blank_add) {} tallies).trans (Nat.zero_add _)

theorem Balanced.foldl_add (ht : t.Balanced) (h : ∀ s ∈ tallies, s.Balanced) :
    (tallies.foldl (· + ·) t).Balanced := by
  induction tallies generalizing t with
  | nil => exact ht
  | cons s tallies ih =>
    obtain ⟨hs, hrest⟩ := List.forall_mem_cons.mp h
    exact ih (ht.add hs) hrest

/-- Tallies that are balanced are so together. -/
theorem balanced_sum (h : ∀ t ∈ tallies, t.Balanced) : (sum tallies).Balanced :=
  balanced_zero.foldl_add h

end Tally

/-! ## Totals -/

/-- A file whose tally was taken from bytes. -/
def FileRecord.Counted (file : FileRecord) : Prop :=
  ∃ cs bytes, file.tally = countBytes cs bytes

theorem FileRecord.Counted.balanced {file : FileRecord} (h : file.Counted) : file.tally.Balanced := by
  obtain ⟨cs, bytes, htally⟩ := h
  rw [htally]
  exact (countLines_describes cs _).balanced

namespace Totals

theorem tally_foldl_add (files : List FileRecord) (t : Totals) :
    (files.foldl Totals.add t).tally = (files.map FileRecord.tally).foldl (· + ·) t.tally := by
  induction files generalizing t with
  | nil => rfl
  | cons file files ih => exact ih (t.add file)

/-- The tally of a group of files is the sum of theirs. -/
theorem tally_ofFiles (language : String) (files : List FileRecord) :
    (Totals.ofFiles language files).tally = Tally.sum (files.map FileRecord.tally) :=
  tally_foldl_add files (Totals.zero language)

end Totals

theorem summarize_balanced {files : List FileRecord} (h : ∀ file ∈ files, file.Counted) :
    (∀ row ∈ (summarize files).languages, row.tally.Balanced ∧
      row.tally = Tally.sum ((files.filter (·.language = row.language)).map FileRecord.tally)) ∧
    (∀ file ∈ files, ∃ row ∈ (summarize files).languages, row.language = file.language) ∧
    (summarize files).total.tally.Balanced ∧
      (summarize files).total.tally = Tally.sum (files.map FileRecord.tally) := by
  have hbalanced : ∀ t ∈ files.map FileRecord.tally, t.Balanced :=
    List.forall_mem_map.mpr fun file hmem => (h file hmem).balanced
  have htotal : (summarize files).total.tally = Tally.sum (files.map FileRecord.tally) :=
    Totals.tally_ofFiles totalName files
  refine ⟨fun row hrow => ?_, fun file hmem => ?_, ?_, htotal⟩
  · rw [languages_summarize, mem_rowsBy] at hrow
    have htally : row.tally = Tally.sum ((group files row.language).map FileRecord.tally) := by
      rw [← Totals.tally_ofFiles row.language, ← hrow.2]
    refine ⟨?_, htally⟩
    rw [htally]
    apply Tally.balanced_sum
    intro t ht
    exact hbalanced t ((List.filter_sublist.map _).subset ht)
  · refine ⟨Totals.ofFiles file.language (group files file.language), ?_, Totals.language_ofFiles _ _⟩
    rw [languages_summarize, mem_rowsBy, Totals.language_ofFiles]
    exact ⟨mem_languagesOf.mpr ⟨file, hmem, rfl⟩, rfl⟩
  · rw [htotal]
    exact Tally.balanced_sum hbalanced

/-! ## All of it -/

/-- **The figures fit together.** A file has as many lines as line feeds, and one more if it does not end
with one, no more than bytes; its tally describes them. So it is with a text. Tallies together have the sum of
each figure and are balanced if each is. The rows of a summary of files that were counted, one for each of
their languages, and the row of all of them, are the tallies of those files together, and balanced. -/
theorem tallies_balanced (cs : List Construct) :
    (∀ bytes : List UInt8,
      (countBytes cs bytes).lines =
          bytes.count 10 + (if bytes ≠ [] ∧ bytes.getLast? ≠ some 10 then 1 else 0) ∧
        (countBytes cs bytes).lines ≤ bytes.length ∧
        ∃ lines, LinesOfFile bytes lines ∧ (countBytes cs bytes).Describes cs lines) ∧
    (∀ text : List Char,
      (countText cs text).lines =
          text.count '\n' + (if text ≠ [] ∧ text.getLast? ≠ some '\n' then 1 else 0) ∧
        (countText cs text).lines ≤ byteLength text ∧
        ∃ lines, LinesOfText text lines ∧ (countText cs text).Describes cs lines) ∧
    (∀ tallies : List Tally, (Tally.sum tallies).Sums tallies ∧
      ((∀ t ∈ tallies, t.Balanced) → (Tally.sum tallies).Balanced)) ∧
    ∀ files : List FileRecord, (∀ file ∈ files, file.Counted) →
      (∀ row ∈ (summarize files).languages, row.tally.Balanced ∧
        row.tally = Tally.sum ((files.filter (·.language = row.language)).map FileRecord.tally)) ∧
      (∀ file ∈ files, ∃ row ∈ (summarize files).languages, row.language = file.language) ∧
      (summarize files).total.tally.Balanced ∧
        (summarize files).total.tally = Tally.sum (files.map FileRecord.tally) := by
  refine ⟨fun bytes => ?_, fun text => ?_, fun tallies => ⟨Tally.sum_sums tallies, Tally.balanced_sum⟩,
    fun files => summarize_balanced⟩
  · have hdescribes := countLines_describes cs ((terminated 10 bytes).map lineOfBytes)
    have hlines : (countBytes cs bytes).lines = (terminated 10 bytes).length := by
      rw [countBytes, hdescribes.lines, List.length_map]
    rw [hlines]
    exact ⟨length_terminated bytes, length_terminated_le bytes, _, linesOfFile_map bytes, hdescribes⟩
  · have hdescribes := countLines_describes cs (lines text)
    have hlines : (countText cs text).lines = (terminated '\n' text).length := by
      rw [countText, hdescribes.lines, lines, List.length_map]
    rw [hlines]
    exact ⟨length_terminated text, (length_terminated_le text).trans (length_le_byteLength text), _,
      linesOfText_lines text, hdescribes⟩

/-- Three files in two languages: a block comment over a line of white space, a line with a no-break space and
one with a byte that is no text; a line of code; and a comment and a line that no line feed ends. -/
theorem tallies_balanced_shell :
    let c : List Construct := [.lineComment ['/', '/'], .blockComment ['/', '*'] ['*', '/']]
    let sh : List Construct := [.lineComment ['#']]
    let bytes : List UInt8 := [0x2F, 0x2A, 0x0A, 0x20, 0x0A, 0x2A, 0x2F, 0x0A, 0xC2, 0xA0, 0x0D, 0x0A, 0xFF]
    let first := FileRecord.of (.ofString "a.c") "C" 13 (countBytes c bytes)
    let second := FileRecord.of (.ofString "b.c") "C" 2 (countBytes c [0x78, 0x0A])
    let third := FileRecord.of (.ofString "c.sh") "Shell" 3 (countBytes sh [0x23, 0x0A, 0x20])
    let files := [first, second, third]
    (∀ file ∈ files, file.Counted) ∧ countBytes c bytes = ⟨5, 1, 3, 1⟩ ∧
      (countBytes c bytes).lines = bytes.count 10 + 1 ∧
      countBytes sh [0x23, 0x0A, 0x20] = ⟨2, 0, 1, 1⟩ ∧
      countText sh ['#', '\n', ' ', '\r'] = ⟨2, 0, 1, 1⟩ ∧
      (∃ row ∈ (summarize files).languages, row.language = "C" ∧ row.tally = ⟨6, 2, 3, 1⟩ ∧
        row.tally.Balanced) ∧
      (∃ row ∈ (summarize files).languages, row.language = "Shell" ∧ row.tally = ⟨2, 0, 1, 1⟩) ∧
      (summarize files).total.tally = ⟨8, 2, 4, 2⟩ ∧ (summarize files).total.tally.Balanced := by
  intro c sh bytes first second third files
  have hcounted : ∀ file ∈ files, file.Counted := by
    intro file hmem
    simp only [files, List.mem_cons, List.not_mem_nil, or_false] at hmem
    obtain rfl | rfl | rfl := hmem
    · exact ⟨c, bytes, rfl⟩
    · exact ⟨c, [0x78, 0x0A], rfl⟩
    · exact ⟨sh, [0x23, 0x0A, 0x20], rfl⟩
  obtain ⟨hbytes, -, -, hfiles⟩ := tallies_balanced c
  obtain ⟨hlines, -⟩ := hbytes bytes
  obtain ⟨hrows, hlanguages, hbalanced, htotal⟩ := hfiles files hcounted
  obtain ⟨row, hrow, hlanguage⟩ := hlanguages first List.mem_cons_self
  obtain ⟨row', hrow', hlanguage'⟩ := hlanguages third (by simp [files])
  refine ⟨hcounted, by decide +kernel, hlines, by decide +kernel, by decide +kernel,
    ⟨row, hrow, hlanguage, ?_, (hrows row hrow).1⟩, ⟨row', hrow', hlanguage', ?_⟩, ?_, hbalanced⟩
  · rw [(hrows row hrow).2, hlanguage]
    decide +kernel
  · rw [(hrows row' hrow').2, hlanguage']
    decide +kernel
  · rw [htotal]
    decide +kernel

end LineCensus
