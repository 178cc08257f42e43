import LineCensus.Construct.Search
import LineCensus.Text.Blank

/-!
# `Line.Classify` — lines of one file as code, comment or blank

The only thing carried from line to line is the construct that is still open. Within a line two
questions take turns: with nothing open, which construct opens first; with one open, where it
closes.

## Contents

* `LineKind`, `Opened` — the answer for a line, and the state;
* `Opening`, `earliest?` — which construct opens first: the least offset, then the longest
  delimiter, then the lowest index;
* `round?`, `rounds?`, `classify?` — one turn, all turns and a whole line, with every cut and index
  checked. `classify?_spec`: for a construct of the language there is no fault;
* `classify` — the line as a total function.

The search for the close is a parameter, a `Closer`; `Construct.closer` is the one in use.
-/

namespace LineCensus

open Text

/-! ## Kinds of lines and the state between them -/

/-- What a line counts as. -/
inductive LineKind where
  | blank
  | code
  | comment
deriving DecidableEq, Repr

/-- The open construct: its kind, and its index in the language. -/
structure Opened where
  kind : Construct.Kind
  index : Nat
deriving DecidableEq, Repr

/-- What was seen on a line so far. -/
structure Seen where
  code : Bool := false
  comment : Bool := false
deriving DecidableEq, Repr

namespace Seen

/-- The same with a construct of the kind: a string is code. -/
def mark (seen : Seen) : Construct.Kind → Seen
  | .string => { seen with code := true }
  | .lineComment | .blockComment => { seen with comment := true }

/-- The same with a text that lies outside all constructs: it is code unless it is blank. -/
def text (seen : Seen) (outside : List Char) : Seen :=
  { seen with code := seen.code || !isBlankText outside }

/-- The kind of a line: code wins over comment. -/
def kind (seen : Seen) : LineKind :=
  if seen.code then .code else if seen.comment then .comment else .blank

end Seen

/-! ## The first opening -/

/-- An opening delimiter in a text: the index of its construct, where it starts and ends. -/
structure Opening where
  index : Nat
  start : Nat
  stop : Nat
deriving DecidableEq, Repr

/-- Whether an opening goes before another that stands earlier in the language. -/
def Opening.precedes (o best : Opening) : Bool :=
  o.start < best.start || (o.start == best.start && o.stop > best.stop)

/-- The first place where the construct opens. -/
def opening? (index : Nat) (c : Construct) (text : List Char) : Checked (Option Opening) :=
  if c.opening.isEmpty then .ok none
  else
    match (c.opens text).resolve (byteLength text) with
    | none => .ok none
    | some stop =>
      if byteLength c.opening ≤ stop then .ok (some ⟨index, stop - byteLength c.opening, stop⟩)
      else .error .offset

/-- The better of the best opening so far and one of a later construct. -/
def Opening.choose (best found : Option Opening) : Option Opening :=
  match best, found with
  | best, none => best
  | none, found => found
  | some best, some found => if found.precedes best then some found else some best

theorem Opening.mem_or_mem_of_mem_choose {best found : Option Opening} {o : Opening}
    (h : o ∈ Opening.choose best found) : o ∈ best ∨ o ∈ found := by
  unfold Opening.choose at h
  split at h
  · exact Or.inl h
  · exact Or.inr h
  · split at h
    · exact Or.inr h
    · exact Or.inl h

/-- The best of an opening and those of the constructs from the index on. -/
def earliestFrom? (text : List Char) (best : Option Opening) (index : Nat) :
    List Construct → Checked (Option Opening)
  | [] => .ok best
  | c :: cs =>
    match opening? index c text with
    | .error fault => .error fault
    | .ok found => earliestFrom? text (Opening.choose best found) (index + 1) cs

/-- The opening that comes first in the text. -/
def earliest? (constructs : List Construct) (text : List Char) : Checked (Option Opening) :=
  earliestFrom? text none 0 constructs

/-- A construct that can open does so at a place of its delimiter. -/
theorem opening?_spec (index : Nat) (c : Construct) (text : List Char) :
    ∃ found, opening? index c text = .ok found ∧
      ∀ o ∈ found, o.index = index ∧ ∃ before after, c.opening ≠ [] ∧
        text = before ++ c.opening ++ after ∧ o.start = byteLength before ∧
        o.stop = byteLength (before ++ c.opening) := by
  unfold opening? Construct.opens findDelimiter
  split
  · exact ⟨none, rfl, by simp⟩
  · next hd =>
    have hne : c.opening ≠ [] := by simpa [List.isEmpty_iff] using hd
    cases hfind : find? c.opening text with
    | none => exact ⟨none, by simp, by simp⟩
    | some start =>
      obtain ⟨before, after, htext, rfl⟩ := exists_of_find?_eq_some hfind
      have hle : byteLength before + byteLength c.opening ≤ byteLength text := by
        rw [htext]; simp
      refine ⟨some ⟨index, byteLength before, byteLength before + byteLength c.opening⟩, ?_, ?_⟩
      · simp [Position.resolve_afterDelimiter hle]
      · rintro o ho
        obtain rfl := Option.some.inj ho
        exact ⟨rfl, before, after, hne, htext, rfl, by simp⟩

/-- An opening belongs to a construct of the list and stands in the text. -/
def Opening.StandsIn (o : Opening) (constructs : List Construct) (text : List Char) : Prop :=
  ∃ c before after, constructs[o.index]? = some c ∧ c.opening ≠ [] ∧
    text = before ++ c.opening ++ after ∧ o.start = byteLength before ∧
    o.stop = byteLength (before ++ c.opening)

theorem earliestFrom?_spec {constructs cs : List Construct} {text : List Char}
    (passed : List Construct) (best : Option Opening) (hsplit : constructs = passed ++ cs)
    (hbest : ∀ o ∈ best, o.StandsIn constructs text) :
    ∃ found, earliestFrom? text best passed.length cs = .ok found ∧
      ∀ o ∈ found, o.StandsIn constructs text := by
  -- on the constructs to come; those passed give the index its meaning
  induction cs generalizing passed best with
  | nil => exact ⟨best, rfl, hbest⟩
  | cons c cs ih =>
    obtain ⟨found, hfound, hstands⟩ := opening?_spec passed.length c text
    simp only [earliestFrom?, hfound]
    have := ih (passed ++ [c]) (Opening.choose best found) (by simp [hsplit]) ?_
    · simpa using this
    · have hnew : ∀ o ∈ found, o.StandsIn constructs text := by
        intro o ho
        obtain ⟨hindex, before, after, hne, htext, hstart, hstop⟩ := hstands o ho
        exact ⟨c, before, after, by simp [hindex, hsplit], hne, htext, hstart, hstop⟩
      intro o ho
      rcases Opening.mem_or_mem_of_mem_choose ho with ho' | ho'
      · exact hbest o ho'
      · exact hnew o ho'

theorem earliest?_spec (constructs : List Construct) (text : List Char) :
    ∃ found, earliest? constructs text = .ok found ∧
      ∀ o ∈ found, o.StandsIn constructs text :=
  earliestFrom?_spec [] none rfl (by simp)

/-! ## The close -/

/-- A search for the place where a construct closes. It has no fault, and its answer can be cut. -/
structure Closer where
  search : Construct → List Char → Checked Position
  spec : ∀ c text, ∃ p, search c text = .ok p ∧ p.CutsIn text

/-- The search by `Construct.close?`. -/
def Construct.closer : Closer := ⟨Construct.close?, Construct.close?_spec⟩

/-! ## A line -/

/-- The outcome of one turn: the line is done, or reading goes on with nothing open. -/
inductive Round where
  | done (opened : Option Opened) (seen : Seen)
  | again (seen : Seen) (rest : List Char)
deriving DecidableEq, Repr

/-- A turn with a construct open at the start of the text. -/
def insideRound? (closer : Closer) (constructs : List Construct) (opened : Opened) (seen : Seen)
    (text : List Char) : Checked Round :=
  match constructs[opened.index]? with
  | none => .error .index
  | some c =>
    match closer.search c text with
    | .error fault => .error fault
    | .ok .notFound => .ok (.done (some opened) (seen.mark c.kind))
    | .ok .atLineEnd => .ok (.done none (seen.mark c.kind))
    | .ok (.resume next) =>
      match cut? next text with
      | none => .error .cut
      | some (_, rest) => .ok (.again (seen.mark c.kind) rest)

/-- One turn: up to the close of the open construct, after opening the first one if none is. An
opening delimiter that ends the line leaves its construct open. -/
def round? (closer : Closer) (constructs : List Construct) (opened : Option Opened) (seen : Seen)
    (text : List Char) : Checked Round :=
  match opened with
  | some opened => insideRound? closer constructs opened seen text
  | none =>
    match earliest? constructs text with
    | .error fault => .error fault
    | .ok none => .ok (.done none (seen.text text))
    | .ok (some o) =>
      -- what lies before the opening is outside, and decides on code
      match cut? o.start text, constructs[o.index]? with
      | none, _ => .error .cut
      | _, none => .error .index
      | some (before, _), some c =>
        -- nothing is left of the line in which the construct could close
        if o.stop ≥ byteLength text then
          .ok (.done (some ⟨c.kind, o.index⟩) ((seen.text before).mark c.kind))
        else
          match cut? o.stop text with
          | none => .error .cut
          | some (_, rest) =>
            insideRound? closer constructs ⟨c.kind, o.index⟩ (seen.text before) rest

/-- All turns of a line. -/
def rounds? (closer : Closer) (constructs : List Construct) (opened : Option Opened) (seen : Seen)
    (text : List Char) : Checked (Option Opened × Seen) :=
  match round? closer constructs opened seen text with
  | .error fault => .error fault
  | .ok (.done opened seen) => .ok (opened, seen)
  | .ok (.again seen rest) =>
    if rest.length < text.length then rounds? closer constructs none seen rest
    else .error .progress
termination_by text.length

/-- The state for the next line: a line comment does not reach it. -/
def Opened.carried (opened : Option Opened) : Option Opened :=
  opened.filter (·.kind != .lineComment)

/-- The kind of a line and the state after it. A blank line leaves the state alone; it is comment
within a block comment and blank elsewhere, in a string too. -/
def classify? (closer : Closer) (constructs : List Construct) (opened : Option Opened)
    (line : List Char) : Checked (LineKind × Option Opened) :=
  if isBlankText line then
    .ok (if (opened.map Opened.kind) = some .blockComment then .comment else .blank, opened)
  else
    match rounds? closer constructs opened {} line with
    | .error fault => .error fault
    | .ok (opened, seen) => .ok (seen.kind, Opened.carried opened)

/-! ## No fault -/

/-- The open construct, if any, is one of the list. -/
def Opened.Within (constructs : List Construct) (opened : Option Opened) : Prop :=
  ∀ o ∈ opened, o.index < constructs.length

/-- A turn that is done leaves a construct of the list open or none; one that goes on has less text
to read. -/
def Round.Sound (constructs : List Construct) (text : List Char) : Round → Prop
  | .done opened _ => Opened.Within constructs opened
  | .again _ rest => rest.length < text.length

theorem Opened.within_none {constructs : List Construct} : Opened.Within constructs none := by
  simp [Opened.Within]

theorem Opened.within_some {constructs : List Construct} {o : Opened}
    (h : o.index < constructs.length) : Opened.Within constructs (some o) := by
  simpa [Opened.Within] using h

theorem insideRound?_spec (closer : Closer) {constructs : List Construct} (opened : Opened)
    (h : opened.index < constructs.length) (seen : Seen) (text : List Char) :
    ∃ r, insideRound? closer constructs opened seen text = .ok r ∧ r.Sound constructs text := by
  obtain ⟨p, hp, hcuts⟩ := closer.spec constructs[opened.index] text
  unfold insideRound?
  rw [List.getElem?_eq_getElem h]
  simp only [hp]
  cases p with
  | notFound => exact ⟨_, rfl, Opened.within_some h⟩
  | atLineEnd => exact ⟨_, rfl, Opened.within_none⟩
  | resume n =>
    obtain ⟨before, after, htext, hne, hlen⟩ := hcuts n rfl
    subst htext hlen
    have := List.length_pos_iff.2 hne
    simp only [cut?_append]
    exact ⟨_, rfl, by simp only [Round.Sound, List.length_append]; omega⟩

theorem round?_spec (closer : Closer) {constructs : List Construct} {opened : Option Opened}
    (h : Opened.Within constructs opened) (seen : Seen) (text : List Char) :
    ∃ r, round? closer constructs opened seen text = .ok r ∧ r.Sound constructs text := by
  cases opened with
  | some o => exact insideRound?_spec closer o (h o rfl) seen text
  | none =>
    obtain ⟨found, hfound, hstands⟩ := earliest?_spec constructs text
    simp only [round?, hfound]
    cases found with
    | none => exact ⟨_, rfl, Opened.within_none⟩
    | some o =>
      obtain ⟨c, before, after, hc, hne, htext, hstart, hstop⟩ := hstands o rfl
      have hindex : o.index < constructs.length := (List.getElem?_eq_some_iff.1 hc).1
      subst htext
      have hcut : cut? o.start (before ++ c.opening ++ after) =
          some (before, c.opening ++ after) := by
        rw [hstart, List.append_assoc, cut?_append]
      simp only [hcut, hc]
      split
      · exact ⟨_, rfl, Opened.within_some hindex⟩
      · rw [hstop, cut?_append]
        obtain ⟨r, hr, hsound⟩ := insideRound?_spec closer ⟨c.kind, o.index⟩ hindex
          (seen.text before) after
        refine ⟨r, hr, ?_⟩
        cases r with
        | done => exact hsound
        | again seen' rest =>
          simp only [Round.Sound, List.length_append] at hsound ⊢
          omega

theorem rounds?_spec (closer : Closer) {constructs : List Construct} {opened : Option Opened}
    (h : Opened.Within constructs opened) (seen : Seen) (text : List Char) :
    ∃ r, rounds? closer constructs opened seen text = .ok r ∧ Opened.Within constructs r.1 := by
  induction hn : text.length using Nat.strongRecOn generalizing opened seen text with
  | ind n ih =>
    obtain ⟨r, hr, hsound⟩ := round?_spec closer h seen text
    rw [rounds?, hr]
    cases r with
    | done o' seen' => exact ⟨_, rfl, hsound⟩
    | again seen' rest =>
      have hlt : rest.length < text.length := hsound
      simp only [hlt, if_true]
      exact ih rest.length (hn ▸ hlt) Opened.within_none seen' rest rfl

/-- Reading a line has no fault, and leaves a construct of the language open or none. -/
theorem classify?_spec (closer : Closer) {constructs : List Construct} {opened : Option Opened}
    (h : Opened.Within constructs opened) (line : List Char) :
    ∃ r, classify? closer constructs opened line = .ok r ∧ Opened.Within constructs r.2 := by
  unfold classify?
  split
  · exact ⟨_, rfl, h⟩
  · obtain ⟨r, hr, hwithin⟩ := rounds?_spec closer h {} line
    simp only [hr]
    refine ⟨_, rfl, fun o ho => hwithin o ?_⟩
    exact (Option.mem_filter_iff.1 ho).1

/-! ## The total function -/

/-- The open construct, unless the list has none of its index. -/
def Opened.clip (constructs : List Construct) (opened : Option Opened) : Option Opened :=
  opened.filter (·.index < constructs.length)

theorem Opened.within_clip (constructs : List Construct) (opened : Option Opened) :
    Opened.Within constructs (Opened.clip constructs opened) := by
  intro o ho
  simpa using (Option.mem_filter_iff.1 ho).2

theorem Opened.clip_eq_self {constructs : List Construct} {opened : Option Opened}
    (h : Opened.Within constructs opened) : Opened.clip constructs opened = opened := by
  cases opened with
  | none => rfl
  | some o => simp [Opened.clip, Option.filter, h o rfl]

/-- The kind of a line and the state after it, by any search for the close. -/
def classifyWith (closer : Closer) (constructs : List Construct) (opened : Option Opened)
    (line : List Char) : LineKind × Option Opened :=
  (classify? closer constructs (Opened.clip constructs opened) line).value
    ((classify?_spec closer (Opened.within_clip constructs opened) line).imp fun _ h => h.1)

/-- The kind of a line and the state after it. -/
def classify (constructs : List Construct) (opened : Option Opened) (line : List Char) :
    LineKind × Option Opened :=
  classifyWith Construct.closer constructs opened line

theorem classify?_eq (closer : Closer) {constructs : List Construct} {opened : Option Opened}
    (h : Opened.Within constructs opened) (line : List Char) :
    classify? closer constructs opened line =
      .ok (classifyWith closer constructs opened line) := by
  obtain ⟨r, hr, -⟩ := classify?_spec closer h line
  have hclip : classify? closer constructs (Opened.clip constructs opened) line = .ok r := by
    rw [Opened.clip_eq_self h, hr]
  rw [hr, classifyWith, Checked.value_eq hclip]

end LineCensus
