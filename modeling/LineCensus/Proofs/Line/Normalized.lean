import LineCensus.Tally
import LineCensus.Proofs.Line.Reachable

/-!
# `Proofs.Line.Normalized` — one form for a close at the end of the line

A string whose closing delimiter is the whole line closes with an offset, where any other close at the end
of a line is reported as that. A search that reports this one like the others takes other turns: a line is
done where it would go on with nothing left to read. No line tells the two searches apart, whatever is open
when it begins.

Nothing is special about that form. A scan sees of a search only what follows the close
(`Closer.Agrees`), so all searches that agree in this give the same scans (`scanWith_of_agrees`).

## Contents

* `scanWith`, `countTextWith`, `countBytesWith` — scans and tallies by any search for the close;
* `scanWith_of_agrees`, `countLinesWith_of_agrees` — the search does not matter, if it agrees;
* `Position.normalized`, `Closer.normalized` — every close at the end of a line in the form for it;
* `normalized_close_eq_atLineEnd_iff`, `normalized_close_ne_iff` — which closes these are, and for which of
  them the form is another one: a string closed by the whole line (`close_string_self`);
* `scan_normalized` — scans and tallies in that form.
-/

namespace LineCensus

open Text

variable {cs : List Construct} {closer : Closer} {opened : Option Opened} {c : Construct}
  {line : List Char}

/-! ## Scans by any search -/

/-- One step from a state, by any search for the close. -/
def Step.runWith (closer : Closer) (constructs : List Construct) (opened : Option Opened) :
    Step → Option LineKind × Option Opened
  | .line text =>
    let result := classifyWith closer constructs opened text
    (some result.1, result.2)
  | .reset => (none, none)

/-- The results of the steps, in order. -/
def scanWith (closer : Closer) (constructs : List Construct) (opened : Option Opened) :
    List Step → List (Option LineKind × Option Opened)
  | [] => []
  | step :: steps =>
    let result := step.runWith closer constructs opened
    result :: scanWith closer constructs result.2 steps

/-- The tally of some lines. -/
def countLinesWith (closer : Closer) (constructs : List Construct) (lines : List (List Char)) : Tally :=
  Tally.ofKinds ((scanWith closer constructs none (lines.map .line)).filterMap Prod.fst)

/-- The tally of a text. -/
def countTextWith (closer : Closer) (constructs : List Construct) (text : List Char) : Tally :=
  countLinesWith closer constructs (lines text)

/-- The tally of the bytes of a file. -/
def countBytesWith (closer : Closer) (constructs : List Construct) (bytes : List UInt8) : Tally :=
  countLinesWith closer constructs ((terminated 10 bytes).map lineOfBytes)

theorem Step.runWith_of_agrees (h : closer.Agrees) (hopened : ∀ o ∈ opened, o.Genuine cs) (s : Step) :
    s.runWith closer cs opened = s.run cs opened := by
  cases s with
  | line text =>
    have hline : classifyWith closer cs opened text = classify cs opened text := by
      rw [classifyWith_eq_lexer h hopened, classify_eq_lexer hopened]
    rw [Step.runWith, Step.run, hline]
  | reset => rfl

/-- **The search does not matter to a scan**, if it finds what follows the close. -/
theorem scanWith_of_agrees (h : closer.Agrees) (hopened : ∀ o ∈ opened, o.Genuine cs)
    (steps : List Step) : scanWith closer cs opened steps = scan cs opened steps := by
  induction steps generalizing opened with
  | nil => rfl
  | cons step steps ih =>
    rw [scanWith, scan, Step.runWith_of_agrees h hopened, ih (Step.run_genuine hopened step)]

theorem filterMap_fst_scan (opened : Option Opened) (lines : List (List Char)) :
    (scan cs opened (lines.map .line)).filterMap Prod.fst = kindsOf cs opened lines := by
  induction lines generalizing opened with
  | nil => rfl
  | cons line lines ih =>
    rw [kindsOf, ← ih]
    rfl

theorem countLinesWith_of_agrees (h : closer.Agrees) (lines : List (List Char)) :
    countLinesWith closer cs lines = countLines cs none lines := by
  rw [countLinesWith, scanWith_of_agrees h (by simp), filterMap_fst_scan]
  rfl

/-! ## Closes at the end of a line -/

/-- The position in a text of this length, an offset past its last character in the form for the end. -/
def Position.normalized (length : Nat) : Position → Position
  | .notFound => .notFound
  | .atLineEnd => .atLineEnd
  | .resume offset => .afterDelimiter offset length

theorem Position.CutsIn.normalized {p : Position} (h : p.CutsIn line) :
    (p.normalized (byteLength line)).CutsIn line := by
  cases p with
  | notFound => exact h
  | atLineEnd => exact h
  | resume offset =>
    obtain ⟨before, after, rfl, hne, rfl⟩ := h offset rfl
    exact cutsIn_afterDelimiter after hne

/-- The search that reports every close at the end of a line in one form. -/
def Closer.normalized (closer : Closer) : Closer where
  search c text := (closer.search c text).map (Position.normalized (byteLength text))
  spec c text := by
    obtain ⟨p, hp, hcuts⟩ := closer.spec c text
    exact ⟨p.normalized (byteLength text), by rw [hp]; rfl, hcuts.normalized⟩

/-- Where the form changes, nothing follows the close. -/
theorem Construct.Closes.normalized {p : Position} (h : c.Closes line p) :
    c.Closes line (p.normalized (byteLength line)) := by
  cases h with
  | notFound h => exact .notFound h
  | lineComment h => exact .lineComment h
  | atLineEnd h => exact .atLineEnd h
  | resume hline h =>
    subst hline
    exact .afterDelimiter h

theorem Closer.Agrees.normalized (h : closer.Agrees) : closer.normalized.Agrees := by
  intro c line
  obtain ⟨p, hp, hcloses⟩ := h c line
  exact ⟨p.normalized (byteLength line), by simp only [Closer.normalized, hp]; rfl, hcloses.normalized⟩

/-! ### Which closes these are -/

theorem afterDelimiter_add_eq_atLineEnd_iff {before after : List Char} :
    Position.afterDelimiter (byteLength before) (byteLength before + byteLength after) = .atLineEnd ↔
      after = [] := by
  rw [← byteLength_eq_zero]
  unfold Position.afterDelimiter
  split <;> simp <;> omega

theorem Construct.closes_close (c : Construct) (line : List Char) : c.Closes line (c.close line) := by
  obtain ⟨p, hp, hcloses⟩ := Construct.closer_agrees c line
  have hclose : c.close? line = .ok p := hp
  rw [Construct.close?_eq] at hclose
  rwa [Except.ok.inj hclose]

/-- **The form for the end of the line** is that of every line comment, and of every other construct after
whose first close the line has nothing. -/
theorem normalized_close_eq_atLineEnd_iff :
    (c.close line).normalized (byteLength line) = .atLineEnd ↔
      c.kind = .lineComment ∨ c.afterClose? none line = some [] := by
  by_cases hkind : c.kind = .lineComment
  · cases c with
    | lineComment opening => exact iff_of_true rfl (.inl rfl)
    | string => cases hkind
    | blockComment => cases hkind
  · have hcloses : c.Closes line (c.close line) := c.closes_close line
    generalize c.close line = p at hcloses ⊢
    cases hcloses with
    | notFound h => simp [Position.normalized, hkind, h]
    | lineComment h => exact absurd h hkind
    | atLineEnd h => exact iff_of_true rfl (.inr h)
    | resume hline h =>
      subst hline
      simp [Position.normalized, afterDelimiter_add_eq_atLineEnd_iff, hkind, h]

theorem Position.normalized_ne_iff {p : Position} {length : Nat} :
    p.normalized length ≠ p ↔ ∃ offset, p = .resume offset ∧ length ≤ offset := by
  cases p with
  | notFound => simp [Position.normalized]
  | atLineEnd => simp [Position.normalized]
  | resume offset =>
    rw [Position.normalized, Ne, Position.afterDelimiter_eq_resume]
    simp

section StringClose

variable {opening closing : List Char} {escape : Option Char}

/-- A line that is the closing delimiter closes the string with an offset. -/
theorem close_string_self (hne : closing ≠ []) :
    (Construct.string opening closing escape).close closing = .resume (byteLength closing) := by
  have hhere : (Construct.string opening closing escape).closesHere? [].getLast? (closing ++ []) =
      some closing := closesHere?_string hne endsEscaped_nil
  have hafter : (Construct.string opening closing escape).afterClose? none (closing ++ []) = some [] :=
    Construct.afterClose?_of_closesHere? hhere
  rw [List.append_nil] at hafter
  have hanswer : CloseAnswer closing closing ((Construct.string opening closing escape).close closing)
      ((Construct.string opening closing escape).afterClose? none closing) := closeAnswer_close hne closing
  rw [hafter] at hanswer
  obtain ⟨front, hfront, hp⟩ := hanswer
  obtain rfl : front = [] := by simpa using hfront
  exact hp

/-- Where a string closes with an offset at the end of the line, nothing stands before the delimiter. -/
theorem eq_closing_of_close_string {offset : Nat} (hne : closing ≠ [])
    (hclose : (Construct.string opening closing escape).close line = .resume offset)
    (hpast : byteLength line ≤ offset) : closing = line := by
  have hanswer : CloseAnswer closing line ((Construct.string opening closing escape).close line)
      ((Construct.string opening closing escape).afterClose? none line) := closeAnswer_close hne line
  rw [hclose] at hanswer
  cases hafter : (Construct.string opening closing escape).afterClose? none line with
  | none =>
    rw [hafter] at hanswer
    cases hanswer
  | some after =>
    rw [hafter] at hanswer
    obtain ⟨front, rfl, hp⟩ := hanswer
    split at hp
    · next hfront =>
      obtain rfl := Position.resume.inj hp
      rw [hfront, List.nil_append, byteLength_append] at hpast
      have hrest : after = [] := byteLength_eq_zero.mp (by omega)
      rw [hfront, hrest, List.append_nil, List.nil_append]
    · -- further on, an offset is one before the end of the line
      obtain ⟨rfl, hlt⟩ := Position.afterDelimiter_eq_resume.mp hp.symm
      exact absurd hpast (Nat.not_le.mpr hlt)

/-- A string closes with an offset at the end of the line only where the line is its closing delimiter. -/
theorem exists_close_string_iff :
    (∃ offset, (Construct.string opening closing escape).close line = .resume offset ∧
      byteLength line ≤ offset) ↔ line ≠ [] ∧ closing = line := by
  constructor
  · rintro ⟨offset, hclose, hpast⟩
    have hne : closing ≠ [] := by
      rintro rfl
      cases hclose
    obtain rfl := eq_closing_of_close_string hne hclose hpast
    exact ⟨hne, rfl⟩
  · rintro ⟨hne, rfl⟩
    exact ⟨byteLength closing, close_string_self hne, Nat.le_refl _⟩

end StringClose

theorem lt_of_findDelimiter {d : List Char} {offset : Nat} (h : findDelimiter d line = .resume offset) :
    offset < byteLength line := by
  unfold findDelimiter at h
  split at h
  · cases h
  · split at h
    · cases h
    · obtain ⟨rfl, hlt⟩ := Position.afterDelimiter_eq_resume.mp h
      exact hlt

/-- **The form is another one** only for a string whose closing delimiter is the whole line. -/
theorem normalized_close_ne_iff :
    (c.close line).normalized (byteLength line) ≠ c.close line ↔
      c.kind = .string ∧ line ≠ [] ∧ c.closing? = some line := by
  rw [Position.normalized_ne_iff]
  cases c with
  | string opening closing escape =>
    rw [exists_close_string_iff]
    simp [Construct.kind, Construct.closing?]
  | lineComment opening =>
    have hclose : (Construct.lineComment opening).close line = .atLineEnd := rfl
    simp [hclose, Construct.kind]
  | blockComment opening closing =>
    have hclose : (Construct.blockComment opening closing).close line = findDelimiter closing line := rfl
    rw [hclose]
    refine iff_of_false ?_ (by simp [Construct.kind])
    rintro ⟨offset, hfind, hpast⟩
    exact absurd hpast (Nat.not_le.mpr (lt_of_findDelimiter hfind))

/-! ## Scans in that form -/

/-- **No scan shows in which form a close at the end of the line is reported.** The search in the one form
answers with the end of the line for every line comment, and wherever nothing follows the first close; it
answers like the search in use except for a string whose closing delimiter is the whole line. Lines and
resets in any order have the same kinds and leave the same constructs open by either search, and so the
tallies are the same. -/
theorem scan_normalized (cs : List Construct) :
    (∀ c : Construct, ∀ line,
      Construct.closer.normalized.search c line = .ok ((c.close line).normalized (byteLength line)) ∧
      ((c.close line).normalized (byteLength line) = .atLineEnd ↔
        c.kind = .lineComment ∨ c.afterClose? none line = some []) ∧
      ((c.close line).normalized (byteLength line) ≠ c.close line ↔
        c.kind = .string ∧ line ≠ [] ∧ c.closing? = some line)) ∧
    (∀ steps, scanWith Construct.closer.normalized cs none steps = scan cs none steps) ∧
    (∀ text, countTextWith Construct.closer.normalized cs text = countText cs text) ∧
    ∀ bytes, countBytesWith Construct.closer.normalized cs bytes = countBytes cs bytes := by
  have hagrees : Construct.closer.normalized.Agrees := Construct.closer_agrees.normalized
  refine ⟨fun c line => ⟨?_, normalized_close_eq_atLineEnd_iff, normalized_close_ne_iff⟩, ?_, ?_, ?_⟩
  · show (c.close? line).map _ = _
    rw [Construct.close?_eq]
    rfl
  · exact scanWith_of_agrees hagrees (by simp)
  · exact fun text => countLinesWith_of_agrees hagrees (lines text)
  · exact fun bytes => countLinesWith_of_agrees hagrees ((terminated 10 bytes).map lineOfBytes)

end LineCensus
