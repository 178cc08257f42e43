import Mathlib.Data.List.MinMax
import LineCensus.Line.Classify
import LineCensus.Proofs.Line.Occurrence

/-!
# `Proofs.Line.Lexer` — a lexer that reads a line one character at a time

The reference for `classify`. It searches for nothing and cuts nothing: at each character it asks
whether a delimiter stands right here, and moves on by one character. All of a delimiter but its first
character is jumped over.

## Contents

* `Construct.opensHere`, `Construct.closesHere?` — whether a delimiter stands at the start of a text;
* `Construct.afterClose?` — what follows the first close;
* `opensHere?` — which construct opens: the longest delimiter, then the lowest index;
* `Lexer.Mode`, `Lexer.step`, `Lexer.read` — where the lexer stands, one character read from there, and a
  text;
* `Lexer.classify`, `Lexer.scan` — a line and the lines of a file;
* `Lexer.read_outside_append`, `Lexer.read_inside` — reading up to the next delimiter.
-/

namespace LineCensus

open Text

/-! ## Delimiters at the start of a text -/

/-- Whether the construct can open at the start of the text. An empty delimiter opens nothing. -/
def Construct.opensHere (c : Construct) (text : List Char) : Bool :=
  !c.opening.isEmpty && c.opening.isPrefixOf text

/-- The closing delimiter, if the construct closes at the start of the text; `last` is the character
before it, if that belongs to the construct's text on this line. An empty delimiter closes nothing, and
none closes a string right after its escape character. -/
def Construct.closesHere? (c : Construct) (last : Option Char) (text : List Char) :
    Option (List Char) :=
  c.closing?.filter fun closing =>
    !closing.isEmpty && closing.isPrefixOf text && (last.isNone || last != c.escape?)

/-- What follows the first place where the construct closes. -/
def Construct.afterClose? (c : Construct) (last : Option Char) : List Char → Option (List Char)
  | [] => none
  | ch :: text =>
    match c.closesHere? last (ch :: text) with
    | some closing => some ((ch :: text).drop closing.length)
    | none => c.afterClose? (some ch) text

/-- The construct that opens at the start of the text, with its index: of those that can, the one with
the longest delimiter, and of equally long ones the first. -/
def opensHere? (cs : List Construct) (text : List Char) : Option (Construct × Nat) :=
  (cs.zipIdx.filter fun entry => entry.1.opensHere text).argmax fun entry => entry.1.opening.length

theorem Construct.opensHere_iff {c : Construct} {text : List Char} :
    c.opensHere text = true ↔ c.opening ≠ [] ∧ c.opening <+: text := by
  simp [Construct.opensHere, List.isPrefixOf_iff_prefix]

theorem Construct.closesHere?_eq_some_iff {c : Construct} {last : Option Char}
    {text closing : List Char} :
    c.closesHere? last text = some closing ↔
      c.closing? = some closing ∧ closing ≠ [] ∧ closing <+: text ∧
        (last = none ∨ last ≠ c.escape?) := by
  simp [Construct.closesHere?, Option.filter_eq_some_iff, List.isPrefixOf_iff_prefix, and_assoc]

/-- Nothing closes where no closing delimiter stands, and after the escape character. -/
theorem Construct.closesHere?_eq_none {c : Construct} {last : Option Char} {text : List Char}
    (h : ∀ closing ∈ c.closing?, closing ≠ [] → closing <+: text → last ≠ none ∧ last = c.escape?) :
    c.closesHere? last text = none := by
  rw [Option.eq_none_iff_forall_not_mem]
  intro closing hcloses
  obtain ⟨hclosing, hne, hprefix, hlast⟩ := Construct.closesHere?_eq_some_iff.mp hcloses
  obtain ⟨hsome, hescape⟩ := h closing hclosing hne hprefix
  rcases hlast with hnone | hother
  · exact hsome hnone
  · exact hother hescape

@[simp] theorem Construct.closesHere?_nil {c : Construct} {last : Option Char} :
    c.closesHere? last [] = none := by
  apply Construct.closesHere?_eq_none
  intro closing _ hne hprefix
  exact absurd (List.prefix_nil.mp hprefix) hne

/-- Nothing opens where no opening delimiter stands. -/
theorem opensHere?_eq_none_iff {cs : List Construct} {text : List Char} :
    opensHere? cs text = none ↔ ∀ c ∈ cs, c.opening ≠ [] → ¬ c.opening <+: text := by
  unfold opensHere?
  rw [List.argmax_eq_none, List.filter_eq_nil_iff]
  constructor
  · intro h c hc hne hprefix
    obtain ⟨i, hi⟩ := List.mem_iff_getElem?.mp hc
    exact h (c, i) (List.mk_mem_zipIdx_iff_getElem?.mpr hi)
      (Construct.opensHere_iff.mpr ⟨hne, hprefix⟩)
  · rintro h ⟨c, i⟩ hmem hopens
    obtain ⟨hne, hprefix⟩ := Construct.opensHere_iff.mp hopens
    exact h c (List.mem_of_getElem? (List.mk_mem_zipIdx_iff_getElem?.mp hmem)) hne hprefix

@[simp] theorem opensHere?_nil {cs : List Construct} : opensHere? cs [] = none := by
  rw [opensHere?_eq_none_iff]
  intro c _ hne hprefix
  exact hne (List.prefix_nil.mp hprefix)

/-- Entries of a filtered list with indices stand in the order of their indices. -/
theorem snd_le_snd_of_idxOf_le {α : Type} [DecidableEq (α × Nat)] {xs : List α}
    {p : α × Nat → Bool} {a b : α × Nat} (ha : a ∈ xs.zipIdx.filter p)
    (hb : b ∈ xs.zipIdx.filter p)
    (hle : (xs.zipIdx.filter p).idxOf a ≤ (xs.zipIdx.filter p).idxOf b) : a.2 ≤ b.2 := by
  -- the indices ascend in the list, and a filter keeps the order
  have hsorted : (xs.zipIdx.filter p).Pairwise (·.2 < ·.2) := by
    apply List.Pairwise.filter
    rw [← List.pairwise_map (f := Prod.snd) (R := (· < ·)), List.zipIdx_map_snd]
    exact List.pairwise_lt_range'
  rcases Nat.lt_or_eq_of_le hle with hlt | heq
  · have hpair := List.pairwise_iff_getElem.mp hsorted _ _ (List.idxOf_lt_length_of_mem ha)
      (List.idxOf_lt_length_of_mem hb) hlt
    rw [List.getElem_idxOf, List.getElem_idxOf] at hpair
    exact Nat.le_of_lt hpair
  · rw [(List.idxOf_inj ha).mp heq]

/-- What opens is a construct of the list that can, and none that can goes before it. -/
theorem opensHere?_spec {cs : List Construct} {text : List Char} {c : Construct} {i : Nat}
    (h : opensHere? cs text = some (c, i)) :
    cs[i]? = some c ∧ c.opensHere text = true ∧
      ∀ d j, cs[j]? = some d → d.opensHere text = true →
        d.opening.length < c.opening.length ∨ d.opening.length = c.opening.length ∧ i ≤ j := by
  unfold opensHere? at h
  obtain ⟨hmem, hlongest, hfirst⟩ := List.argmax_eq_some_iff.mp h
  have hhere := List.mem_filter.mp hmem
  refine ⟨List.mk_mem_zipIdx_iff_getElem?.mp hhere.1, hhere.2, ?_⟩
  intro d j hd hopens
  have hd' : (d, j) ∈ cs.zipIdx.filter fun entry => entry.1.opensHere text :=
    List.mem_filter.mpr ⟨List.mk_mem_zipIdx_iff_getElem?.mpr hd, hopens⟩
  -- `argmax` takes the first of the longest, so one as long stands later in the list
  rcases Nat.lt_or_ge d.opening.length c.opening.length with hlt | hge
  · exact Or.inl hlt
  · exact Or.inr ⟨Nat.le_antisymm (hlongest _ hd') hge,
      snd_le_snd_of_idxOf_le hmem hd' (hfirst _ hd' hge)⟩

/-! ## The lexer -/

namespace Lexer

/-- Where the lexer stands: outside all constructs, or inside the text of one. `last` is the character
read before, if it belongs to that text and to this line. -/
inductive Mode where
  | outside
  | inside (construct : Construct) (index : Nat) (last : Option Char)
deriving DecidableEq, Repr

/-- Where a line starts. -/
def Mode.ofOpened (cs : List Construct) (opened : Option Opened) : Mode :=
  match opened with
  | none => .outside
  | some o =>
    match cs[o.index]? with
    | none => .outside
    | some c => .inside c o.index none

/-- What is open after the line: a line comment ends with it. -/
def Mode.carried : Mode → Option Opened
  | .outside => none
  | .inside c index _ => if c.kind = .lineComment then none else some ⟨c.kind, index⟩

/-- What is seen of a line by starting there: the construct, if one is open. -/
def Mode.seen : Mode → Seen
  | .outside => {}
  | .inside c _ _ => Seen.mark {} c.kind

/-- One character is read where `ch :: text` is left: the mode after it, how many of the next characters
belong to the same delimiter, and what is seen. -/
def step (cs : List Construct) (mode : Mode) (seen : Seen) (ch : Char) (text : List Char) :
    Mode × Nat × Seen :=
  match mode with
  | .outside =>
    match opensHere? cs (ch :: text) with
    | some (c, index) => (.inside c index none, c.opening.length - 1, seen.mark c.kind)
    | none => (.outside, 0, { seen with code := seen.code || !isBlank ch })
  | .inside c index last =>
    match c.closesHere? last (ch :: text) with
    | some closing => (.outside, closing.length - 1, seen)
    | none => (.inside c index (some ch), 0, seen)

/-- The text read from `mode` on, after `jump` characters that belong to a delimiter. -/
def read (cs : List Construct) : Mode → Nat → Seen → List Char → Mode × Seen
  | mode, _, seen, [] => (mode, seen)
  | mode, jump + 1, seen, _ :: text => read cs mode jump seen text
  | mode, 0, seen, ch :: text =>
    let next := step cs mode seen ch text
    read cs next.1 next.2.1 next.2.2 text

/-- The kind of a line and what is open after it. -/
def classify (cs : List Construct) (opened : Option Opened) (line : List Char) :
    LineKind × Option Opened :=
  if isBlankText line then
    (if opened.map Opened.kind = some .blockComment then .comment else .blank, opened)
  else
    let start := Mode.ofOpened cs opened
    let result := read cs start 0 start.seen line
    (result.2.kind, result.1.carried)

/-- The kind of each line and what is open after it. -/
def scan (cs : List Construct) (opened : Option Opened) :
    List (List Char) → List (LineKind × Option Opened)
  | [] => []
  | line :: lines =>
    let result := classify cs opened line
    result :: scan cs result.2 lines

variable {cs : List Construct} {seen : Seen} {text rest before : List Char} {c : Construct}
  {index : Nat} {last : Option Char}

@[simp] theorem read_nil {mode : Mode} {jump : Nat} : read cs mode jump seen [] = (mode, seen) := by
  cases jump <;> rfl

/-! ### What a step can do -/

theorem step_opens {ch : Char} (h : opensHere? cs (ch :: text) = some (c, index)) :
    step cs .outside seen ch text =
      (.inside c index none, c.opening.length - 1, seen.mark c.kind) := by
  simp only [step, h]

theorem step_outside {ch : Char} (h : opensHere? cs (ch :: text) = none) :
    step cs .outside seen ch text =
      (.outside, 0, { seen with code := seen.code || !isBlank ch }) := by
  simp only [step, h]

theorem step_closes {ch : Char} {closing : List Char}
    (h : c.closesHere? last (ch :: text) = some closing) :
    step cs (.inside c index last) seen ch text = (.outside, closing.length - 1, seen) := by
  simp only [step, h]

theorem step_inside {ch : Char} (h : c.closesHere? last (ch :: text) = none) :
    step cs (.inside c index last) seen ch text = (.inside c index (some ch), 0, seen) := by
  simp only [step, h]

/-! ### Up to the next delimiter -/

/-- Jumping over characters is reading the text without them. -/
theorem read_jump {mode : Mode} {jump : Nat} :
    read cs mode jump seen text = read cs mode 0 seen (text.drop jump) := by
  induction text generalizing jump with
  | nil => simp
  | cons ch text ih =>
    cases jump with
    | zero => rfl
    | succ jump =>
      rw [List.drop_succ_cons, ← ih]
      rfl

/-- A delimiter whose first character is read is jumped over as a whole. -/
theorem read_jump_delimiter {mode : Mode} {d : List Char} {ch : Char} (hne : d ≠ [])
    (htext : d ++ rest = ch :: text) : read cs mode (d.length - 1) seen text = read cs mode 0 seen rest := by
  cases d with
  | nil => exact absurd rfl hne
  | cons c d =>
    obtain ⟨rfl, rfl⟩ := List.cons.inj htext
    rw [read_jump]
    simp

/-- Text in which nothing opens is read as text outside all constructs. -/
theorem read_outside_append
    (h : ∀ t, t <:+ before → t ≠ [] → opensHere? cs (t ++ rest) = none) :
    read cs .outside 0 seen (before ++ rest) = read cs .outside 0 (seen.text before) rest := by
  induction before generalizing seen with
  | nil => simp [Seen.text]
  | cons ch before ih =>
    have hhere : opensHere? cs (ch :: (before ++ rest)) = none :=
      h (ch :: before) (List.suffix_refl _) (by simp)
    have hlater : ∀ t, t <:+ before → t ≠ [] → opensHere? cs (t ++ rest) = none := by
      intro t ht hne
      exact h t (ht.trans (List.suffix_cons ch before)) hne
    rw [List.cons_append, read, step_outside hhere, ih hlater]
    simp [Seen.text, Bool.or_assoc, Bool.not_and]

/-- An opening delimiter is jumped over, and the text of its construct begins. -/
theorem read_outside_opens (h : opensHere? cs (c.opening ++ rest) = some (c, index)) :
    read cs .outside 0 seen (c.opening ++ rest) =
      read cs (.inside c index none) 0 (seen.mark c.kind) rest := by
  obtain ⟨-, hopens, -⟩ := opensHere?_spec h
  have hne : c.opening ≠ [] := (Construct.opensHere_iff.mp hopens).1
  obtain ⟨ch, text, htext⟩ := List.exists_cons_of_ne_nil (l := c.opening ++ rest) (by simp [hne])
  rw [htext] at h ⊢
  rw [read, step_opens h]
  exact read_jump_delimiter hne htext

/-- **Inside a construct** the lexer reads up to the first close, or to the end of the line. -/
theorem read_inside :
    read cs (.inside c index last) 0 seen text =
      match c.afterClose? last text with
      | some rest => read cs .outside 0 seen rest
      | none => (.inside c index (text.getLast?.or last), seen) := by
  induction text generalizing last with
  | nil => simp [Construct.afterClose?]
  | cons ch text ih =>
    cases hcloses : c.closesHere? last (ch :: text) with
    | some closing =>
      obtain ⟨-, hne, ⟨rest, hrest⟩, -⟩ := Construct.closesHere?_eq_some_iff.mp hcloses
      rw [read, step_closes hcloses, Construct.afterClose?, hcloses]
      simp only
      rw [read_jump_delimiter hne hrest, ← hrest, List.drop_left]
    | none =>
      -- the character just read is the last one now
      rw [read, step_inside hcloses, Construct.afterClose?, hcloses]
      simp only
      rw [ih]
      cases c.afterClose? (some ch) text with
      | some rest => rfl
      | none => cases text <;> simp [List.getLast?_cons]

end Lexer

end LineCensus
