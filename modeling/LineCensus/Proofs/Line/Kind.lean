import LineCensus.Line.Scan
import LineCensus.Proofs.Line.Refinement
import LineCensus.Proofs.Text.Trim

/-!
# `Proofs.Line.Kind` — which lines are blank

A line is blank exactly if it holds white space only and no block comment is open before it. The hard
half is that a line with anything else on it is never blank, whatever is open and however the line ends:
the lexer starts with something seen if a construct is open, sees something at the first character that
is no white space or at an opening before it, and forgets nothing (`Lexer.read_kind_ne_blank`,
`Lexer.read_outside_kind_ne_blank`).

## Contents

* `Seen.kind_eq_blank_iff` — a line is blank if nothing was seen on it;
* `Lexer.classify_eq_blank_iff` — one line;
* `Lexer.kinds`, `Lexer.openBefore` — the lines of a file, with what is open before each of them;
* `blankLines`, `Lexer.count_blank_kinds` — how many of them are blank.
-/

namespace LineCensus

open Text

variable {cs : List Construct} {opened : Option Opened}

theorem Seen.kind_eq_blank_iff {seen : Seen} :
    seen.kind = .blank ↔ seen.code = false ∧ seen.comment = false := by
  unfold Seen.kind
  cases seen.code <;> cases seen.comment <;> simp

/-- A construct is something seen. -/
theorem Seen.mark_kind_ne_blank (seen : Seen) (kind : Construct.Kind) : (seen.mark kind).kind ≠ .blank := by
  rw [ne_eq, Seen.kind_eq_blank_iff]
  cases kind <;> simp [Seen.mark]

namespace Lexer

variable {mode : Mode} {seen : Seen}

/-- One character takes back nothing that was seen. -/
theorem step_kind_ne_blank (h : seen.kind ≠ .blank) (ch : Char) (text : List Char) :
    (step cs mode seen ch text).2.2.kind ≠ .blank := by
  cases mode with
  | outside =>
    cases hopens : opensHere? cs (ch :: text) with
    | some found =>
      rw [step_opens hopens]
      exact Seen.mark_kind_ne_blank seen found.1.kind
    | none =>
      rw [step_outside hopens]
      rw [ne_eq, Seen.kind_eq_blank_iff] at h ⊢
      intro hnothing
      rw [Bool.or_eq_false_iff] at hnothing
      exact h ⟨hnothing.1.1, hnothing.2⟩
  | inside c index last =>
    cases hcloses : c.closesHere? last (ch :: text) with
    | some closing =>
      rw [step_closes hcloses]
      exact h
    | none =>
      rw [step_inside hcloses]
      exact h

/-- What was seen once stays seen. -/
theorem read_kind_ne_blank (h : seen.kind ≠ .blank) (jump : Nat) (text : List Char) :
    (read cs mode jump seen text).2.kind ≠ .blank := by
  induction text generalizing mode jump seen with
  | nil => rwa [read_nil]
  | cons ch text ih =>
    cases jump with
    | succ jump => exact ih h jump
    | zero => exact ih (step_kind_ne_blank h ch text) _

/-- Outside all constructs something is seen of a text that is not blank. -/
theorem read_outside_kind_ne_blank (seen : Seen) {text : List Char} (h : isBlankText text = false) :
    (read cs .outside 0 seen text).2.kind ≠ .blank := by
  induction text generalizing seen with
  | nil => cases h
  | cons ch text ih =>
    rw [read]
    cases hopens : opensHere? cs (ch :: text) with
    | some found =>
      rw [step_opens hopens]
      exact read_kind_ne_blank (Seen.mark_kind_ne_blank seen found.1.kind) _ text
    | none =>
      rw [step_outside hopens]
      by_cases hch : isBlank ch = true
      · -- the character is white space: the rest of the text is not
        rw [isBlankText_cons, hch, Bool.true_and] at h
        exact ih _ h
      · have hseen : ({ seen with code := seen.code || !isBlank ch } : Seen).kind ≠ .blank := by
          rw [ne_eq, Seen.kind_eq_blank_iff]
          simp [hch]
        exact read_kind_ne_blank hseen 0 text

/-- A line that is not blank counts as something, whatever is open before it. -/
theorem read_start_kind_ne_blank (opened : Option Opened) {line : List Char}
    (h : isBlankText line = false) :
    (read cs (Mode.ofOpened cs opened) 0 (Mode.ofOpened cs opened).seen line).2.kind ≠ .blank := by
  cases Mode.ofOpened cs opened with
  | outside => exact read_outside_kind_ne_blank _ h
  | inside c index last => exact read_kind_ne_blank (Seen.mark_kind_ne_blank {} c.kind) 0 line

/-- **A line is blank** exactly if it holds white space only and no block comment is open. -/
theorem classify_eq_blank_iff (opened : Option Opened) (line : List Char) :
    (classify cs opened line).1 = .blank ↔
      (∀ c ∈ line, WhiteSpace c) ∧ opened.map Opened.kind ≠ some .blockComment := by
  rw [← isBlankText_iff_whiteSpace, classify]
  by_cases hline : isBlankText line = true
  · rw [if_pos hline]
    by_cases hcomment : opened.map Opened.kind = some .blockComment <;> simp [hline, hcomment]
  · rw [if_neg hline]
    rw [Bool.not_eq_true] at hline
    simp [hline, read_start_kind_ne_blank opened hline]

/-! ## The lines of a file -/

/-- The kinds of lines. -/
def kinds (cs : List Construct) (opened : Option Opened) (lines : List (List Char)) : List LineKind :=
  (scan cs opened lines).map Prod.fst

/-- What is open before each line, and behind the last one. -/
def openBefore (cs : List Construct) (opened : Option Opened) (lines : List (List Char)) :
    List (Option Opened) :=
  opened :: (scan cs opened lines).map Prod.snd

end Lexer

/-- The number of lines of white space that are reached while no block comment is open. -/
def blankLines (cs : List Construct) (opened : Option Opened) (lines : List (List Char)) : Nat :=
  (lines.zip (Lexer.openBefore cs opened lines)).countP fun (line, before) =>
    line.all (fun c => decide (WhiteSpace c)) && before.map Opened.kind != some .blockComment

/-- **As many lines are blank** as hold white space only and are reached with no block comment open. -/
theorem Lexer.count_blank_kinds (lines : List (List Char)) :
    (kinds cs opened lines).count .blank = blankLines cs opened lines := by
  induction lines generalizing opened with
  | nil => rfl
  | cons line lines ih =>
    have hrest : (kinds cs (classify cs opened line).2 lines).count .blank =
        blankLines cs (classify cs opened line).2 lines := ih
    have hkinds : kinds cs opened (line :: lines) =
        (classify cs opened line).1 :: kinds cs (classify cs opened line).2 lines := rfl
    have hzip : (line :: lines).zip (openBefore cs opened (line :: lines)) =
        (line, opened) :: lines.zip (openBefore cs (classify cs opened line).2 lines) := rfl
    rw [hkinds, List.count_cons, hrest, blankLines, blankLines, hzip, List.countP_cons]
    have hline : (classify cs opened line).1 = .blank ↔ _ := classify_eq_blank_iff opened line
    simp only [beq_iff_eq, Bool.and_eq_true, List.all_eq_true, decide_eq_true_eq, bne_iff_ne, hline]

/-- A line with anything but white space on it is not blank. -/
theorem Lexer.ne_blank_of_mem_zip {lines : List (List Char)} {line : List Char} {kind : LineKind}
    (hmem : (line, kind) ∈ lines.zip (kinds cs opened lines)) (hline : ∃ c ∈ line, ¬ WhiteSpace c) :
    kind ≠ .blank := by
  induction lines generalizing opened with
  | nil => cases hmem
  | cons first lines ih =>
    have hzip : (first :: lines).zip (kinds cs opened (first :: lines)) =
        (first, (classify cs opened first).1) :: lines.zip (kinds cs (classify cs opened first).2 lines) := rfl
    rw [hzip] at hmem
    rcases List.mem_cons.mp hmem with heq | hmem
    · obtain ⟨rfl, rfl⟩ := Prod.mk.inj heq
      obtain ⟨c, hc, hvisible⟩ := hline
      intro hblank
      exact hvisible (((classify_eq_blank_iff opened line).mp hblank).1 c hc)
    · exact ih hmem

/-- The kinds of lines are those that the lexer gives them. -/
theorem kindsOf_eq_kinds (h : ∀ o ∈ opened, o.Genuine cs) (lines : List (List Char)) :
    kindsOf cs opened lines = Lexer.kinds cs opened lines := by
  induction lines generalizing opened with
  | nil => rfl
  | cons line lines ih =>
    rw [kindsOf, classify_eq_lexer h, ih (Lexer.classify_genuine h line)]
    rfl

end LineCensus
