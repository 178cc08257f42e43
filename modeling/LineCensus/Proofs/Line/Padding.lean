import LineCensus.Proofs.Line.Refinement

/-!
# `Proofs.Line.Padding` — white space at the end of a line

White space that occurs in no delimiter of a language can be added at the end of a line: neither the kind
of the line nor what is open after it changes. The lexer makes the induction direct, since it asks at
each character only what stands there, and a delimiter that avoids the added text stands in the longer
line where it stands in the shorter one.

## Contents

* `Construct.Avoids` — the delimiters of a construct hold none of the characters of a text;
* `Lexer.read_append_blank`, `classify_append_blank` — the longer text, and the longer line.
-/

namespace LineCensus

open Text

variable {cs : List Construct} {c : Construct} {padding text : List Char}

/-- No character of the text occurs in a delimiter of the construct. -/
def Construct.Avoids (c : Construct) (text : List Char) : Prop :=
  ∀ ch ∈ text, ch ∉ c.opening ∧ ∀ closing ∈ c.closing?, ch ∉ closing

theorem Construct.Avoids.tail {ch : Char} (h : c.Avoids (ch :: padding)) : c.Avoids padding := by
  intro ch' hmem
  exact h ch' (List.mem_cons_of_mem ch hmem)

/-! ## Delimiters that avoid the added text -/

theorem prefix_append_iff {d s w : List Char} (h : ∀ ch ∈ w, ch ∉ d) : d <+: s ++ w ↔ d <+: s := by
  constructor
  · intro hd
    rcases List.prefix_or_prefix_of_prefix hd (List.prefix_append s w) with hs | ⟨u, rfl⟩
    · exact hs
    · -- what `d` has beyond `s` would be part of `w`
      rw [List.prefix_append_right_inj] at hd
      cases u with
      | nil => simp
      | cons ch u =>
        have hch : ch ∈ w := hd.subset (by simp)
        exact absurd (by simp) (h ch hch)
  · intro hd
    exact hd.trans (List.prefix_append s w)

theorem Construct.opensHere_append (h : c.Avoids padding) :
    c.opensHere (text ++ padding) = c.opensHere text := by
  rw [Bool.eq_iff_iff, Construct.opensHere_iff, Construct.opensHere_iff,
    prefix_append_iff fun ch hch => (h ch hch).1]

theorem opensHere?_append (h : ∀ c ∈ cs, c.Avoids padding) :
    opensHere? cs (text ++ padding) = opensHere? cs text := by
  unfold opensHere?
  congr 1
  apply List.filter_congr
  intro entry hentry
  exact Construct.opensHere_append (h entry.1 (List.fst_mem_of_mem_zipIdx hentry))

theorem Construct.closesHere?_append {last : Option Char} (h : c.Avoids padding) :
    c.closesHere? last (text ++ padding) = c.closesHere? last text := by
  apply Option.ext
  intro closing
  rw [Construct.closesHere?_eq_some_iff, Construct.closesHere?_eq_some_iff]
  constructor
  · rintro ⟨hclosing, hne, hprefix, hlast⟩
    rw [prefix_append_iff fun ch hch => (h ch hch).2 closing hclosing] at hprefix
    exact ⟨hclosing, hne, hprefix, hlast⟩
  · rintro ⟨hclosing, hne, hprefix, hlast⟩
    exact ⟨hclosing, hne, hprefix.trans (List.prefix_append text padding), hlast⟩

namespace Lexer

variable {mode : Mode} {seen : Seen} {ch : Char}

/-- One step does not see what is added. -/
theorem step_append (h : ∀ c ∈ cs, c.Avoids padding) (hmode : mode.Proper cs) :
    step cs mode seen ch (text ++ padding) = step cs mode seen ch text := by
  cases mode with
  | outside =>
    have hsame : opensHere? cs (ch :: text ++ padding) = opensHere? cs (ch :: text) :=
      opensHere?_append h
    rw [List.cons_append] at hsame
    simp only [step, hsame]
  | inside c index last =>
    have hsame : c.closesHere? last (ch :: text ++ padding) = c.closesHere? last (ch :: text) :=
      Construct.closesHere?_append (h c (List.mem_of_getElem? hmode.1))
    rw [List.cons_append] at hsame
    simp only [step, hsame]

/-- One step on a blank that no delimiter holds sees nothing, and opens and closes nothing. -/
theorem step_blank (h : ∀ c ∈ cs, c.Avoids (ch :: padding)) (hmode : mode.Proper cs)
    (hblank : isBlank ch = true) :
    (step cs mode seen ch padding).2 = (0, seen) ∧
      (step cs mode seen ch padding).1.carried = mode.carried := by
  cases mode with
  | outside =>
    have hnone : opensHere? cs ([] ++ ch :: padding) = opensHere? cs [] := opensHere?_append h
    rw [opensHere?_nil, List.nil_append] at hnone
    rw [step_outside hnone, hblank]
    simp
  | inside c index last =>
    have hnone : c.closesHere? last ([] ++ ch :: padding) = c.closesHere? last [] :=
      Construct.closesHere?_append (h c (List.mem_of_getElem? hmode.1))
    rw [Construct.closesHere?_nil, List.nil_append] at hnone
    rw [step_inside hnone]
    exact ⟨rfl, rfl⟩

/-- White space that no delimiter holds is read over. -/
theorem read_blank (h : ∀ c ∈ cs, c.Avoids padding) (hmode : mode.Proper cs)
    (hblank : isBlankText padding = true) (jump : Nat) :
    (read cs mode jump seen padding).2 = seen ∧
      (read cs mode jump seen padding).1.carried = mode.carried := by
  -- a delimiter may still have characters to jump over: nothing is asked of those
  induction padding generalizing mode jump with
  | nil => simp
  | cons ch padding ih =>
    rw [isBlankText_cons, Bool.and_eq_true] at hblank
    have htail : ∀ c ∈ cs, c.Avoids padding := fun c hc => (h c hc).tail
    cases jump with
    | succ jump => exact ih htail hmode hblank.2 jump
    | zero =>
      obtain ⟨hseen, hcarried⟩ : (step cs mode seen ch padding).2 = (0, seen) ∧
          (step cs mode seen ch padding).1.carried = mode.carried := step_blank h hmode hblank.1
      obtain ⟨hread, hkept⟩ := ih htail (step_proper hmode seen ch padding) hblank.2 0
      rw [read, hseen]
      exact ⟨hread, hkept.trans hcarried⟩

/-- **Reading a text with white space added** sees the same and leaves the same open. -/
theorem read_append_blank (h : ∀ c ∈ cs, c.Avoids padding) (hmode : mode.Proper cs)
    (hblank : isBlankText padding = true) (jump : Nat) (seen : Seen) (text : List Char) :
    (read cs mode jump seen (text ++ padding)).2 = (read cs mode jump seen text).2 ∧
      (read cs mode jump seen (text ++ padding)).1.carried =
        (read cs mode jump seen text).1.carried := by
  induction text generalizing mode jump seen with
  | nil =>
    rw [List.nil_append, read_nil]
    exact read_blank h hmode hblank jump
  | cons ch text ih =>
    cases jump with
    | succ jump => exact ih hmode jump seen
    | zero =>
      rw [List.cons_append, read, read, step_append h hmode]
      exact ih (step_proper hmode seen ch text) _ _

end Lexer

/-- **White space at the end of a line** changes neither its kind nor what is open after it. -/
theorem classify_append_blank {opened : Option Opened} (hopened : ∀ o ∈ opened, o.Genuine cs)
    (h : ∀ c ∈ cs, c.Avoids padding) (hblank : isBlankText padding = true) (line : List Char) :
    classify cs opened (line ++ padding) = classify cs opened line := by
  rw [classify_eq_lexer hopened, classify_eq_lexer hopened, Lexer.classify, Lexer.classify,
    isBlankText_append, hblank, Bool.and_true]
  split
  · rfl
  · obtain ⟨hseen, hcarried⟩ := Lexer.read_append_blank h (Lexer.Mode.ofOpened_proper hopened) hblank 0
      (Lexer.Mode.ofOpened cs opened).seen line
    simp only [hseen, hcarried]

end LineCensus
