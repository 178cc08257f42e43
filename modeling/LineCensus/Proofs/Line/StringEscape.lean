import LineCensus.Proofs.Line.StringClose

/-!
# `Proofs.Line.StringEscape` — escapes read from left to right

In many languages an escape character takes the character after it with it, whatever that is, so that an
escaped escape escapes nothing (`textBeforeClose?`). The search for the close looks at one character only:
right after an escape character no delimiter closes.

Wherever the search closes, reading from left to right has nothing taken either, so it stops there or
earlier. It stops earlier in one case: where the text before the delimiter ends with an escape character that
was taken itself, by one before it. Two of them in a row are needed for that (`Taken`).

## Contents

* `textBeforeClose?` — the text of a string up to its close, escapes read from left to right;
* `Taken`, `Taken.next` — what is known of the text read so far;
* `ReadsUpTo`, `readsUpTo_textBeforeClose?` — that reading stops at the first close of the search, or before
  it;
* `close_string_reads_escapes_iff` — when the two agree, and what the search answers otherwise;
* `close_string_past_escaped_escape` — a string that ends with an escaped escape character.
-/

namespace LineCensus

open Text

/-! ## Reading from left to right -/

/-- The text up to the first closing delimiter of which no character is taken. `taken` tells that an escape
character was read that takes the next character with it. -/
def textBeforeClose? (closing : List Char) (e : Char) : Bool → List Char → Option (List Char)
  | _, [] => none
  | true, ch :: rest => (textBeforeClose? closing e false rest).map (ch :: ·)
  | false, ch :: rest =>
    if closing.isPrefixOf (ch :: rest) then some []
    else (textBeforeClose? closing e (ch == e) rest).map (ch :: ·)

variable {opening closing line before rest text : List Char} {e ch : Char} {taken : Bool}

/-- What is known of the text read so far. If the next character is taken, the last one is the escape
character; and if it is not, an escape character at the end was taken by one before it. -/
def Taken (e : Char) (before : List Char) (taken : Bool) : Prop :=
  if taken then before.getLast? = some e else before.getLast? = some e → [e, e] <:+ before

theorem taken_nil : Taken e [] false := by
  simp [Taken]

/-- A character is read. -/
theorem Taken.next (h : Taken e before taken) (ch : Char) :
    Taken e (before ++ [ch]) (!taken && ch == e) := by
  cases taken with
  | true =>
    -- the escape character that takes this one stands right before it
    intro hlast
    obtain rfl : ch = e := by simpa using hlast
    obtain ⟨front, rfl⟩ := List.getLast?_eq_some_iff.mp h
    exact ⟨front, by simp⟩
  | false =>
    by_cases hescape : ch = e
    · simp [Taken, hescape]
    · simp [Taken, hescape]

/-! ## Where the reading stops and where the search closes -/

/-- What the reading says of the free delimiters in the text that is left: there are none, or it stops at a
delimiter before which there are none. What it has read then ends with an escape character only if that is
taken. -/
def ReadsUpTo (closing : List Char) (e : Char) (before rest : List Char) : Option (List Char) → Prop
  | none => ∀ skipped, ¬ FreeAfter closing (some e) before rest skipped
  | some text => text ++ closing <+: rest ∧ Taken e (before ++ text) false ∧
      ∀ skipped, FreeAfter closing (some e) before rest skipped → text <+: skipped

/-- A character is read over at which no free delimiter stands. -/
theorem ReadsUpTo.cons {result : Option (List Char)}
    (hhere : ¬ FreeAfter closing (some e) before (ch :: rest) [])
    (h : ReadsUpTo closing e (before ++ [ch]) rest result) :
    ReadsUpTo closing e before (ch :: rest) (result.map (ch :: ·)) := by
  cases result with
  | none =>
    intro skipped hfree
    cases skipped with
    | nil => exact hhere hfree
    | cons ch' skipped => exact h skipped (freeAfter_cons_iff.mp hfree).2
  | some text =>
    obtain ⟨hstarts, htaken, hleast⟩ := h
    refine ⟨List.cons_prefix_cons.mpr ⟨rfl, hstarts⟩, by simpa using htaken, ?_⟩
    intro skipped hfree
    cases skipped with
    | nil => exact absurd hfree hhere
    | cons ch' skipped =>
      obtain ⟨rfl, hlater⟩ := freeAfter_cons_iff.mp hfree
      exact List.cons_prefix_cons.mpr ⟨rfl, hleast skipped hlater⟩

/-- **The reading stops at the first free delimiter, or before it.** A free delimiter is not taken, so the
reading does not pass it. -/
theorem readsUpTo_textBeforeClose? (hne : closing ≠ []) (htaken : Taken e before taken) :
    ReadsUpTo closing e before rest (textBeforeClose? closing e taken rest) := by
  induction rest generalizing before taken with
  | nil =>
    have hnone : textBeforeClose? closing e taken [] = none := by cases taken <;> rfl
    rw [hnone]
    rintro skipped ⟨hstarts, -⟩
    exact hne (List.append_eq_nil_iff.mp (List.prefix_nil.mp hstarts)).2
  | cons ch rest ih =>
    have hnext := ih (htaken.next ch)
    cases taken with
    | true =>
      refine hnext.cons ?_
      rintro ⟨-, hfree⟩
      rw [List.append_nil, endsEscaped_eq_false_iff, htaken] at hfree
      simp at hfree
    | false =>
      rw [textBeforeClose?]
      split
      · next hstarts =>
        refine ⟨List.isPrefixOf_iff_prefix.mp hstarts, ?_, fun skipped _ => List.nil_prefix⟩
        rwa [List.append_nil]
      · next hstarts =>
        refine hnext.cons fun hfree => hstarts ?_
        exact List.isPrefixOf_iff_prefix.mpr hfree.1

/-- From the start of a line on. -/
theorem readsUpTo_of_eq {result : Option (List Char)} (hne : closing ≠ [])
    (h : textBeforeClose? closing e false line = result) : ReadsUpTo closing e [] line result :=
  h ▸ readsUpTo_textBeforeClose? hne taken_nil

/-- The offset past the first free delimiter is what the search answers. -/
theorem resolve_close_string (opening : List Char) (hne : closing ≠ []) (escape : Option Char)
    (line : List Char) :
    match ((Construct.string opening closing escape).close line).resolve (byteLength line) with
    | none => ∀ skipped, ¬ FreeAfter closing escape [] line skipped
    | some n => ∃ skipped, n = byteLength (skipped ++ closing) ∧
        FreeAfter closing escape [] line skipped ∧
        ∀ skipped', FreeAfter closing escape [] line skipped' →
          byteLength skipped ≤ byteLength skipped' := by
  have hanswer : CloseAnswer closing line ((Construct.string opening closing escape).close line)
      ((Construct.string opening closing escape).afterClose? none line) := closeAnswer_close hne line
  have hspec := afterClose?_string_spec opening hne escape [] line
  rw [List.getLast?_nil] at hspec
  cases hafter : (Construct.string opening closing escape).afterClose? none line with
  | none =>
    rw [hafter] at hanswer hspec
    have hclose : (Construct.string opening closing escape).close line = .notFound := hanswer
    rw [hclose]
    exact hspec
  | some after =>
    rw [hafter] at hanswer hspec
    obtain ⟨front, hline, hp⟩ := hanswer
    obtain ⟨skipped, hline', hfree, hleast⟩ := hspec
    obtain rfl : skipped = front := List.append_cancel_right (hline'.symm.trans hline)
    have hle : byteLength (skipped ++ closing) ≤ byteLength line := byteLength_le_of_prefix hfree.1
    have hresolve : ((Construct.string opening closing escape).close line).resolve (byteLength line) =
        some (byteLength (skipped ++ closing)) := by
      rw [hp]
      split
      · next hnil => rw [hnil]; rfl
      · exact Position.resolve_afterDelimiter hle
    rw [hresolve]
    exact ⟨skipped, rfl, hfree, hleast⟩

/-! ## The two compared -/

/-- The offset past the close that reading from left to right finds. -/
def closeByReading? (closing : List Char) (e : Char) (line : List Char) : Option Nat :=
  (textBeforeClose? closing e false line).map fun text => byteLength (text ++ closing)

/-- The search answers where the reading stops, if the delimiter there is free. -/
theorem resolve_close_of_free (opening : List Char) (hne : closing ≠ [])
    (htext : textBeforeClose? closing e false line = some text) (hlast : text.getLast? ≠ some e) :
    ((Construct.string opening closing (some e)).close line).resolve (byteLength line) =
      some (byteLength (text ++ closing)) := by
  obtain ⟨hstarts, -, hfirst⟩ := readsUpTo_of_eq hne htext
  have hfree : FreeAfter closing (some e) [] line text :=
    ⟨hstarts, endsEscaped_eq_false_iff.mpr (.inr hlast)⟩
  have hsearch := resolve_close_string opening hne (some e) line
  cases hn : ((Construct.string opening closing (some e)).close line).resolve (byteLength line) with
  | none =>
    rw [hn] at hsearch
    exact absurd hfree (hsearch text)
  | some n =>
    rw [hn] at hsearch
    obtain ⟨skipped, rfl, hskipped, hleast⟩ := hsearch
    -- each of the two is not longer than the other
    obtain ⟨more, rfl⟩ := hfirst skipped hskipped
    have hle := hleast text hfree
    rw [byteLength_append] at hle
    have hmore : more = [] := byteLength_eq_zero.mp (by omega)
    rw [hmore, List.append_nil]

/-- Otherwise it closes later, or not at all. -/
theorem lt_of_resolve_close {n : Nat} (hne : closing ≠ [])
    (htext : textBeforeClose? closing e false line = some text) (hlast : text.getLast? = some e)
    (hn : ((Construct.string opening closing (some e)).close line).resolve (byteLength line) = some n) :
    byteLength (text ++ closing) < n := by
  obtain ⟨-, -, hfirst⟩ := readsUpTo_of_eq hne htext
  have hsearch := resolve_close_string opening hne (some e) line
  rw [hn] at hsearch
  obtain ⟨skipped, rfl, hfree, -⟩ := hsearch
  obtain ⟨more, rfl⟩ := hfirst skipped hfree
  have hmore : more ≠ [] := by
    rintro rfl
    have hescaped : endsEscaped (some e) text = true := endsEscaped_eq_true_iff.mpr ⟨e, rfl, hlast⟩
    have hfree' := hfree.2
    rw [List.append_nil, List.nil_append, hescaped] at hfree'
    cases hfree'
  have hpos := byteLength_pos hmore
  simp only [byteLength_append]
  omega

theorem Position.resolve_eq_none_iff {p : Position} {n : Nat} : p.resolve n = none ↔ p = .notFound := by
  cases p <;> simp

/-- Where the reading meets no close, the search finds none. -/
theorem close_eq_notFound_of_textBeforeClose? (opening : List Char) (hne : closing ≠ [])
    (htext : textBeforeClose? closing e false line = none) :
    (Construct.string opening closing (some e)).close line = .notFound := by
  have hnowhere : ∀ skipped, ¬ FreeAfter closing (some e) [] line skipped := readsUpTo_of_eq hne htext
  have hsearch := resolve_close_string opening hne (some e) line
  cases hn : ((Construct.string opening closing (some e)).close line).resolve (byteLength line) with
  | none => exact Position.resolve_eq_none_iff.mp hn
  | some n =>
    rw [hn] at hsearch
    obtain ⟨skipped, -, hfree, -⟩ := hsearch
    exact absurd hfree (hnowhere skipped)

/-- **The search closes where reading escapes from left to right closes, unless the delimiter there stands
right after an escape character.** That one was taken by another one before it. The search looks at one
character only, and passes the delimiter: it closes later, or not at all. Where the reading meets no close,
neither does the search. -/
theorem close_string_reads_escapes_iff (opening : List Char) (hne : closing ≠ []) (e : Char)
    (line : List Char) :
    let p := (Construct.string opening closing (some e)).close line
    (p.resolve (byteLength line) = closeByReading? closing e line ↔
      ∀ text ∈ textBeforeClose? closing e false line, text.getLast? ≠ some e) ∧
    (textBeforeClose? closing e false line = none → p = .notFound) ∧
    ∀ text ∈ textBeforeClose? closing e false line, text.getLast? = some e →
      [e, e] <:+ text ∧ ∀ n ∈ p.resolve (byteLength line), byteLength (text ++ closing) < n := by
  intro p
  refine ⟨?_, close_eq_notFound_of_textBeforeClose? opening hne, ?_⟩
  · unfold closeByReading?
    cases htext : textBeforeClose? closing e false line with
    | none =>
      have hclose : p = .notFound := close_eq_notFound_of_textBeforeClose? opening hne htext
      simp [hclose]
    | some text =>
      constructor
      · intro hsame text' hmem hlast
        obtain rfl : text = text' := Option.mem_some_iff.mp hmem
        exact Nat.lt_irrefl _ (lt_of_resolve_close hne htext hlast hsame)
      · intro hfree
        exact resolve_close_of_free opening hne htext (hfree text rfl)
  · intro text htext hlast
    obtain ⟨-, htaken, -⟩ := readsUpTo_of_eq hne htext
    exact ⟨htaken hlast, fun n hn => lt_of_resolve_close hne htext hlast hn⟩

/-- An escaped quote is passed by both. -/
theorem close_string_reads_escapes_iff_escaped_quote :
    let line := ['a', '\\', '"', 'b', '"']
    ['"'] ≠ [] ∧ textBeforeClose? ['"'] '\\' false line = some ['a', '\\', '"', 'b'] ∧
      ((Construct.string ['"'] ['"'] (some '\\')).close line).resolve 5 = some 5 := by
  intro line
  have hne : ['"'] ≠ [] := by decide
  have htext : textBeforeClose? ['"'] '\\' false line = some ['a', '\\', '"', 'b'] := by decide
  have hclose := (close_string_reads_escapes_iff ['"'] hne '\\' line).1.mpr
  rw [closeByReading?, htext] at hclose
  exact ⟨hne, htext, hclose (by simp)⟩

/-- A string that ends with an escaped escape character: read from left to right it closes with the line.
The search finds no close. -/
theorem close_string_past_escaped_escape :
    let line := ['\\', '\\', '"']
    ['"'] ≠ [] ∧ '\\' ∉ ['"'] ∧ closeByReading? ['"'] '\\' line = some 3 ∧
      (Construct.string ['"'] ['"'] (some '\\')).close line = .notFound := by
  have hne : ['"'] ≠ [] := by decide
  have hafter : (Construct.string ['"'] ['"'] (some '\\')).afterClose? none ['\\', '\\', '"'] = none := by
    decide
  have hclose : CloseAnswer ['"'] _ ((Construct.string ['"'] ['"'] (some '\\')).close ['\\', '\\', '"'])
      ((Construct.string ['"'] ['"'] (some '\\')).afterClose? none _) := closeAnswer_close hne _
  rw [hafter] at hclose
  exact ⟨hne, by decide, by decide, hclose⟩

end LineCensus
