import LineCensus.Proofs.Line.Padding
import LineCensus.Proofs.Line.Reachable

/-!
# `Proofs.Line.Respacing` — white space around lines and between them

If the delimiters of a language hold no white space and no escape is white space, then the layout of a
file does not matter: its lines can be indented, padded at the end and set apart by blank lines without a
change to what any of them counts as and to what is open after it.

The two runs differ in one place only. White space in front of a line becomes the character before a
delimiter that was the first thing on the line, so the test for an escape is made where there was none to
make (`Construct.afterClose?_of_last`); it fails, since no escape is white space.

## Contents

* `Construct.Dense` — no white space in what the construct is found by;
* `classify_blank_append`, `classify_respaced`, `classify_blank` — one line, and a line put in;
* `Respaced` — a line of a file with white space put in, and which lines were there before;
* `scan_respaced` — the scan of the file.
-/

namespace LineCensus

open Text

variable {cs : List Construct} {c : Construct} {opened : Option Opened}
  {blank before after line text : List Char}

/-- No white space in the delimiters of the construct, and none as its escape character. -/
structure Construct.Dense (c : Construct) : Prop where
  opening : ∀ ch ∈ c.opening, isBlank ch = false
  closing : ∀ closing ∈ c.closing?, ∀ ch ∈ closing, isBlank ch = false
  escape : ∀ ch ∈ c.escape?, isBlank ch = false

theorem isBlank_of_mem {ch : Char} (hblank : isBlankText blank = true) (hmem : ch ∈ blank) :
    isBlank ch = true :=
  List.all_eq_true.mp hblank ch hmem

/-- The delimiters of a dense construct hold none of the characters of a blank text. -/
theorem Construct.Dense.avoids (h : c.Dense) (hblank : isBlankText blank = true) : c.Avoids blank := by
  intro ch hmem
  have hch : isBlank ch = true := isBlank_of_mem hblank hmem
  constructor
  · intro hopening
    rw [h.opening ch hopening] at hch
    cases hch
  · intro closing hclosing hin
    rw [h.closing closing hclosing ch hin] at hch
    cases hch

/-- A delimiter without the characters of a text starts nowhere in it. -/
theorem not_prefix_of_suffix {d t rest : List Char} (hd : d ≠ []) (h : ∀ ch ∈ text, ch ∉ d)
    (ht : t <:+ text) (hne : t ≠ []) : ¬ d <+: t ++ rest := by
  intro hstarts
  obtain ⟨ch, t, rfl⟩ := List.exists_cons_of_ne_nil hne
  obtain ⟨ch', d, rfl⟩ := List.exists_cons_of_ne_nil hd
  rw [List.cons_append, List.cons_prefix_cons] at hstarts
  have hmem : ch ∈ text := ht.subset List.mem_cons_self
  exact h ch hmem (hstarts.1 ▸ List.mem_cons_self)

/-! ## White space in front of a line -/

/-- A character that is not the escape closes no more and no less than the start of the line does. -/
theorem Construct.closesHere?_of_last {last : Option Char} (h : ∀ ch ∈ last, c.escape? ≠ some ch) :
    c.closesHere? last text = c.closesHere? none text := by
  cases last with
  | none => rfl
  | some ch =>
    apply Option.ext
    intro closing
    have hfree : some ch ≠ c.escape? := (h ch rfl).symm
    rw [Construct.closesHere?_eq_some_iff, Construct.closesHere?_eq_some_iff]
    simp [hfree]

theorem Construct.afterClose?_of_last {last : Option Char} (h : ∀ ch ∈ last, c.escape? ≠ some ch) :
    c.afterClose? last text = c.afterClose? none text := by
  cases text with
  | nil => rfl
  | cons ch text => rw [Construct.afterClose?, Construct.afterClose?, Construct.closesHere?_of_last h]

/-- White space in front of the text of a dense construct is read over. -/
theorem Construct.Dense.afterClose?_append (h : c.Dense) (hblank : isBlankText blank = true) :
    c.afterClose? none (blank ++ text) = c.afterClose? none text := by
  by_cases hclosing : c.closing? = some []
  · -- an empty delimiter never closes
    have hnone : ∀ closing ∈ c.closing?, closing = [] := by
      intro closing hmem
      exact (Option.some.inj (hclosing.symm.trans hmem)).symm
    rw [Construct.afterClose?_eq_none hnone, Construct.afterClose?_eq_none hnone]
  · rw [Construct.afterClose?_append, Construct.afterClose?_of_last]
    · intro ch hlast hescape
      rw [Option.or_none] at hlast
      have hch : isBlank ch = true := isBlank_of_mem hblank (List.mem_of_getLast? hlast)
      rw [h.escape ch hescape] at hch
      cases hch
    · intro t ht hne closing hmem
      have hd : closing ≠ [] := by
        rintro rfl
        exact hclosing hmem
      exact not_prefix_of_suffix hd (fun ch hch => ((h.avoids hblank) ch hch).2 closing hmem) ht hne

namespace Lexer

/-- Outside all constructs white space in which nothing opens is not seen. -/
theorem read_outside_blank (h : ∀ c ∈ cs, c.Dense) (hblank : isBlankText blank = true) (seen : Seen) :
    read cs .outside 0 seen (blank ++ text) = read cs .outside 0 seen text := by
  have hnothing : ∀ t, t <:+ blank → t ≠ [] → opensHere? cs (t ++ text) = none := by
    intro t ht hne
    rw [opensHere?_eq_none_iff]
    intro c hc hd
    exact not_prefix_of_suffix hd (fun ch hch => (((h c hc).avoids hblank) ch hch).1) ht hne
  have hseen : seen.text blank = seen := by simp [Seen.text, hblank]
  rw [read_outside_append hnothing, hseen]

/-- A line that starts inside a construct starts its text. -/
theorem Mode.mem_of_ofOpened {index : Nat} {last : Option Char}
    (h : Mode.ofOpened cs opened = .inside c index last) : c ∈ cs ∧ last = none := by
  cases opened with
  | none => cases h
  | some o =>
    cases hc : cs[o.index]? with
    | none =>
      simp only [Mode.ofOpened, hc] at h
      cases h
    | some c' =>
      simp only [Mode.ofOpened, hc, Mode.inside.injEq] at h
      obtain ⟨rfl, -, rfl⟩ := h
      exact ⟨List.mem_of_getElem? hc, rfl⟩

/-- **Reading a line with white space in front** sees the same and leaves the same open. -/
theorem read_blank_append (h : ∀ c ∈ cs, c.Dense) (hblank : isBlankText blank = true) (seen : Seen)
    (opened : Option Opened) (line : List Char) :
    (read cs (Mode.ofOpened cs opened) 0 seen (blank ++ line)).2 =
        (read cs (Mode.ofOpened cs opened) 0 seen line).2 ∧
      (read cs (Mode.ofOpened cs opened) 0 seen (blank ++ line)).1.carried =
        (read cs (Mode.ofOpened cs opened) 0 seen line).1.carried := by
  cases hmode : Mode.ofOpened cs opened with
  | outside =>
    rw [read_outside_blank h hblank]
    exact ⟨rfl, rfl⟩
  | inside c index last =>
    obtain ⟨hc, rfl⟩ : c ∈ cs ∧ last = none := Mode.mem_of_ofOpened hmode
    rw [read_inside, read_inside, (h c hc).afterClose?_append hblank]
    -- what is read last is not carried to the next line
    cases c.afterClose? none line with
    | some rest => exact ⟨rfl, rfl⟩
    | none => exact ⟨rfl, rfl⟩

end Lexer

/-- White space in front of a line changes neither its kind nor what is open after it. -/
theorem classify_blank_append (hopened : ∀ o ∈ opened, o.Genuine cs) (h : ∀ c ∈ cs, c.Dense)
    (hblank : isBlankText blank = true) (line : List Char) :
    classify cs opened (blank ++ line) = classify cs opened line := by
  rw [classify_eq_lexer hopened, classify_eq_lexer hopened, Lexer.classify, Lexer.classify,
    isBlankText_append, hblank, Bool.true_and]
  split
  · rfl
  · obtain ⟨hseen, hcarried⟩ := Lexer.read_blank_append h hblank
      (Lexer.Mode.ofOpened cs opened).seen opened line
    simp only [hseen, hcarried]

/-- **White space around a line** changes neither its kind nor what is open after it. -/
theorem classify_respaced (hopened : ∀ o ∈ opened, o.Genuine cs) (h : ∀ c ∈ cs, c.Dense)
    (hbefore : isBlankText before = true) (hafter : isBlankText after = true) (line : List Char) :
    classify cs opened (before ++ line ++ after) = classify cs opened line := by
  have havoids : ∀ c ∈ cs, c.Avoids after := fun c hc => (h c hc).avoids hafter
  rw [classify_append_blank hopened havoids hafter, classify_blank_append hopened h hbefore]

/-- A blank line leaves the state alone. -/
theorem classify_blank (hopened : ∀ o ∈ opened, o.Genuine cs) (hblank : isBlankText blank = true) :
    (classify cs opened blank).2 = opened := by
  rw [classify_eq_lexer hopened, Lexer.classify, if_pos hblank]

/-! ## Files -/

/-- A text of white space, or the empty text. -/
abbrev Blanks := { text : List Char // isBlankText text = true }

/-- A line of a file that white space was put into. -/
inductive Respaced where
  /-- A line that was not there. -/
  | inserted (blank : Blanks)
  /-- A line that was there, with white space around it, which may be empty. -/
  | padded (before : Blanks) (line : List Char) (after : Blanks)

namespace Respaced

/-- The line as it stands in the file now. -/
def current : Respaced → List Char
  | .inserted blank => blank
  | .padded before line after => before ++ line ++ after

/-- The line as it was before, if it was there. -/
def original? : Respaced → Option (List Char)
  | .inserted _ => none
  | .padded _ line _ => some line

/-- Of results for the lines of a file, those for the lines that were there before. -/
def originals {α : Type} (file : List Respaced) (results : List α) : List α :=
  (file.zip results).filterMap fun entry => entry.1.original?.map fun _ => entry.2

@[simp] theorem originals_inserted {α : Type} {blank : Blanks} {file : List Respaced} {result : α}
    {results : List α} :
    originals (.inserted blank :: file) (result :: results) = originals file results := rfl

@[simp] theorem originals_padded {α : Type} {before after : Blanks} {line : List Char}
    {file : List Respaced} {result : α} {results : List α} :
    originals (.padded before line after :: file) (result :: results) =
      result :: originals file results := rfl

end Respaced

/-- The scan of a file with white space put in, from any state that a scan can be in. -/
theorem scan_respaced_from (h : ∀ c ∈ cs, c.Dense) (hopened : ∀ o ∈ opened, o.Genuine cs)
    (file : List Respaced) :
    Respaced.originals file (scan cs opened (file.map fun line => .line line.current)) =
      scan cs opened ((file.filterMap Respaced.original?).map .line) := by
  induction file generalizing opened with
  | nil => rfl
  | cons first file ih =>
    rw [List.map_cons, scan]
    cases first with
    | inserted blank =>
      -- the state is the same behind the line as before it
      have hstate : ((Step.line (Respaced.inserted blank).current).run cs opened).2 = opened :=
        classify_blank hopened blank.2
      rw [hstate, Respaced.originals_inserted, ih hopened]
      rfl
    | padded before line after =>
      have hline : (Step.line (Respaced.padded before line after).current).run cs opened =
          (Step.line line).run cs opened := by
        have hsame := classify_respaced hopened h before.2 after.2 line
        simp only [Step.run, Respaced.current, hsame]
      have hnext : ∀ o ∈ ((Step.line line).run cs opened).2, o.Genuine cs :=
        Step.run_genuine hopened (.line line)
      rw [hline, Respaced.originals_padded, ih hnext]
      rfl

/-- **The layout of a file does not matter** if the language is dense: with white space put around any
lines and blank lines put in anywhere, each line that was there is of the same kind, and the same is open
after it. -/
theorem scan_respaced (h : ∀ c ∈ cs, c.Dense) (file : List Respaced) :
    Respaced.originals file (scan cs none (file.map fun line => .line line.current)) =
      scan cs none ((file.filterMap Respaced.original?).map .line) :=
  scan_respaced_from h (by simp) file

/-- A string is closed by the first character of a line that is indented, and a comment goes on over a
line put in. -/
theorem scan_respaced_indented :
    (∀ c ∈ [Construct.doubleQuoted, .blockComment ['/', '*'] ['*', '/']], c.Dense) ∧
      Respaced.originals
        [.padded ⟨[], rfl⟩ ['s', '"'] ⟨[' '], rfl⟩, .padded ⟨['\t'], rfl⟩ ['"', '/', '*'] ⟨['\u00A0'], rfl⟩,
          .inserted ⟨[' '], rfl⟩, .padded ⟨[' '], rfl⟩ ['*', '/'] ⟨[], rfl⟩]
        (scan [.doubleQuoted, .blockComment ['/', '*'] ['*', '/']] none
          [.line ['s', '"', ' '], .line ['\t', '"', '/', '*', '\u00A0'], .line [' '],
            .line [' ', '*', '/']]) =
      [(some .code, some ⟨.string, 0⟩), (some .code, some ⟨.blockComment, 1⟩), (some .comment, none)] := by
  have hdense : ∀ c ∈ [Construct.doubleQuoted, .blockComment ['/', '*'] ['*', '/']], c.Dense := by
    have hvisible : ∀ ch ∈ ['"', '\\', '/', '*'], isBlank ch = false := by
      intro ch hmem
      simp only [List.mem_cons, List.not_mem_nil, or_false] at hmem
      rcases hmem with rfl | rfl | rfl | rfl <;> rfl
    intro c hc
    rw [List.mem_cons, List.mem_singleton] at hc
    obtain rfl | rfl := hc
    · constructor <;>
        simp_all [Construct.doubleQuoted, Construct.opening, Construct.closing?, Construct.escape?]
    · constructor <;> simp_all [Construct.opening, Construct.closing?, Construct.escape?]
  refine ⟨hdense, (scan_respaced hdense _).trans ?_⟩
  have hnone : ∀ o ∈ (none : Option Opened),
      o.Genuine [.doubleQuoted, .blockComment ['/', '*'] ['*', '/']] := by simp
  have hlexer := scan_eq_lexer hnone [['s', '"'], ['"', '/', '*'], ['*', '/']]
  exact hlexer.trans (by decide)

end LineCensus
