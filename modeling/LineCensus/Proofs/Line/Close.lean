import LineCensus.Proofs.Line.Lexer

/-!
# `Proofs.Line.Close` — the search for a close agrees with reading up to it

The search for the close of a string takes first occurrences and skips an escaped one by one character;
`Construct.afterClose?` asks at every character. They differ in one test: a search that resumes exactly at
an occurrence takes it without looking at the character before it. `prefix_cons_of_overlap` is why this
changes nothing: if that character were the escape, the delimiter would also stand one character
earlier, and the search would have stopped there.

## Contents

* `Construct.afterClose?_append` — text without the delimiter is read over;
* `closeFrom?_afterClose?` — the search in a string;
* `Closer.Agrees` — what a search has to answer, and `Construct.closer_agrees`, that the one in use does.
-/

namespace LineCensus

open Text

/-! ## Reading over text -/

/-- Text in which the closing delimiter starts nowhere is read over. -/
theorem Construct.afterClose?_append {c : Construct} {skipped rest : List Char} {last : Option Char}
    (h : ∀ t, t <:+ skipped → t ≠ [] → ∀ closing ∈ c.closing?, ¬ closing <+: t ++ rest) :
    c.afterClose? last (skipped ++ rest) = c.afterClose? (skipped.getLast?.or last) rest := by
  induction skipped generalizing last with
  | nil => simp
  | cons ch skipped ih =>
    have hhere : c.closesHere? last (ch :: (skipped ++ rest)) = none := by
      apply Construct.closesHere?_eq_none
      intro closing hclosing _ hprefix
      exact absurd hprefix (h (ch :: skipped) (List.suffix_refl _) (by simp) closing hclosing)
    have hlater : ∀ t, t <:+ skipped → t ≠ [] → ∀ closing ∈ c.closing?, ¬ closing <+: t ++ rest := by
      intro t ht
      exact h t (ht.trans (List.suffix_cons ch skipped))
    rw [List.cons_append, Construct.afterClose?, hhere]
    simp only
    rw [ih hlater]
    cases skipped <;> simp [List.getLast?_cons]

/-- Up to the place where the closing delimiter is found nothing closes. -/
theorem Construct.afterClose?_of_find? {c : Construct} {closing skipped rest : List Char}
    {last : Option Char} (hclosing : c.closing? = some closing)
    (hfind : find? closing (skipped ++ rest) = some (byteLength skipped)) :
    c.afterClose? last (skipped ++ rest) = c.afterClose? (skipped.getLast?.or last) rest := by
  apply Construct.afterClose?_append
  intro t ht hne d hd
  obtain rfl : closing = d := Option.some.inj (hclosing.symm.trans hd)
  exact not_prefix_of_find? hfind ht hne

theorem Construct.afterClose?_eq_none_of_find? {c : Construct} {closing text : List Char}
    {last : Option Char} (hclosing : c.closing? = some closing) (hfind : find? closing text = none) :
    c.afterClose? last text = none := by
  have hread : c.afterClose? last (text ++ []) = c.afterClose? (text.getLast?.or last) [] := by
    apply Construct.afterClose?_append
    intro t ht _ d hd hstart
    obtain rfl : closing = d := Option.some.inj (hclosing.symm.trans hd)
    rw [List.append_nil] at hstart
    exact find?_eq_none_iff.mp hfind (hstart.isInfix.trans ht.isInfix)
  rw [List.append_nil] at hread
  exact hread

/-- A construct whose closing delimiter is empty, or that has none, never closes. -/
theorem Construct.afterClose?_eq_none {c : Construct} {last : Option Char} {text : List Char}
    (h : ∀ closing ∈ c.closing?, closing = []) : c.afterClose? last text = none := by
  induction text generalizing last with
  | nil => rfl
  | cons ch text ih =>
    have hhere : c.closesHere? last (ch :: text) = none := by
      apply Construct.closesHere?_eq_none
      intro closing hclosing hne _
      exact absurd (h closing hclosing) hne
    rw [Construct.afterClose?, hhere]
    exact ih

/-- At a delimiter that closes, the text after it is what follows. -/
theorem Construct.afterClose?_of_closesHere? {c : Construct} {closing rest : List Char}
    {last : Option Char} (h : c.closesHere? last (closing ++ rest) = some closing) :
    c.afterClose? last (closing ++ rest) = some rest := by
  obtain ⟨-, hne, -⟩ := Construct.closesHere?_eq_some_iff.mp h
  -- reading is by characters, and a delimiter that is found has one
  obtain ⟨ch, text, htext⟩ := List.exists_cons_of_ne_nil (l := closing ++ rest) (by simp [hne])
  rw [htext] at h ⊢
  rw [Construct.afterClose?, h]
  simp only
  rw [← htext, List.drop_left]

/-! ## Strings -/

/-- A delimiter that occurs again one character after its start stands before that start too, if the
character there is its own first one. -/
theorem prefix_cons_of_overlap {c : Char} {tail rest : List Char} (h : c :: tail <+: tail ++ rest) :
    c :: tail <+: c :: (c :: tail ++ rest) := by
  have htail : tail <+: c :: tail :=
    List.prefix_of_prefix_length_le (List.prefix_append tail rest) h (by simp)
  rw [List.cons_prefix_cons]
  exact ⟨rfl, htail.trans (List.prefix_append _ _)⟩

theorem endsEscaped_eq_true_iff {escape : Option Char} {before : List Char} :
    endsEscaped escape before = true ↔ ∃ c, escape = some c ∧ before.getLast? = some c := by
  unfold endsEscaped
  cases escape <;> simp

@[simp] theorem endsEscaped_nil {escape : Option Char} : endsEscaped escape [] = false := by
  cases escape <;> rfl

theorem endsEscaped_eq_false_iff {escape : Option Char} {before : List Char} :
    endsEscaped escape before = false ↔ before.getLast? = none ∨ before.getLast? ≠ escape := by
  unfold endsEscaped
  cases before.getLast? <;> cases escape <;> simp

/-- The escape character counts only as the last character before the delimiter. -/
theorem endsEscaped_append {escape : Option Char} {before skipped : List Char} (hne : skipped ≠ []) :
    endsEscaped escape (before ++ skipped) = endsEscaped escape skipped := by
  unfold endsEscaped
  rw [List.getLast?_append_of_ne_nil before hne]

section StringClose

variable {opening closing before rest : List Char} {escape : Option Char}

theorem closesHere?_string (hne : closing ≠ []) (hescaped : endsEscaped escape before = false) :
    (Construct.string opening closing escape).closesHere? before.getLast? (closing ++ rest) =
      some closing := by
  rw [Construct.closesHere?_eq_some_iff]
  exact ⟨rfl, hne, List.prefix_append _ _, endsEscaped_eq_false_iff.mp hescaped⟩

theorem closesHere?_string_of_escaped (hescaped : endsEscaped escape before = true) :
    (Construct.string opening closing escape).closesHere? before.getLast? rest = none := by
  apply Construct.closesHere?_eq_none
  intro d _ _ _
  obtain ⟨c, rfl, hlast⟩ := endsEscaped_eq_true_iff.mp hescaped
  rw [hlast]
  exact ⟨by simp, rfl⟩

/-- After an escaped delimiter the text is read on from its second character. -/
theorem afterClose?_string_of_escaped {c : Char} {tail : List Char}
    (hescaped : endsEscaped escape before = true) :
    (Construct.string opening closing escape).afterClose? before.getLast? (c :: tail ++ rest) =
      (Construct.string opening closing escape).afterClose? (before ++ [c]).getLast? (tail ++ rest) := by
  rw [List.cons_append, Construct.afterClose?, closesHere?_string_of_escaped hescaped,
    List.getLast?_append]
  rfl

/-- After an escaped delimiter the next one is not escaped by the character jumped over. -/
theorem endsEscaped_of_overlap {c : Char} {tail skipped : List Char}
    (hfind : find? (c :: tail) (skipped ++ (c :: tail ++ rest)) = some (byteLength skipped))
    (hescaped : endsEscaped escape skipped = true) (hoverlap : c :: tail <+: tail ++ rest) :
    endsEscaped escape (before ++ skipped ++ [c]) = false := by
  rw [endsEscaped_append (by simp), Bool.eq_false_iff]
  intro hagain
  obtain ⟨e, rfl, hc⟩ := endsEscaped_eq_true_iff.mp hagain
  obtain rfl : c = e := by simpa using hc
  obtain ⟨e, he, hlast⟩ := endsEscaped_eq_true_iff.mp hescaped
  obtain rfl := Option.some.inj he
  obtain ⟨front, rfl⟩ := List.getLast?_eq_some_iff.mp hlast
  -- the delimiter begins with the escape character, which also stands right before it
  exact not_prefix_of_find? hfind (List.suffix_append front [c]) (by simp)
    (prefix_cons_of_overlap hoverlap)

/-- What the search in a string answers, given what follows the first close. A close at the very start
of the line is the one place that is never taken for the end of the line. -/
def CloseAnswer (closing line : List Char) (p : Position) : Option (List Char) → Prop
  | none => p = .notFound
  | some after => ∃ front, line = front ++ (closing ++ after) ∧
      p = if front = [] then .resume (byteLength closing)
        else .afterDelimiter (byteLength (front ++ closing)) (byteLength line)

/-- **The search in a string.** It goes on after `before`; that the delimiter is not escaped there, if it
stands there at all, is what a round leaves to the next. -/
theorem closeFrom?_afterClose? (hne : closing ≠ [])
    (hfresh : closing <+: rest → endsEscaped escape before = false) :
    ∃ p, closeFrom? closing escape (before ++ rest) (byteLength before) = .ok p ∧
      CloseAnswer closing (before ++ rest) p
        ((Construct.string opening closing escape).afterClose? before.getLast? rest) := by
  -- on the length of the text left; `hfresh` is what an escaped delimiter hands to the next round
  induction hn : rest.length using Nat.strongRecOn generalizing before rest with
  | ind n ih =>
    rw [closeFrom?]
    obtain ⟨hnone, hround⟩ | ⟨skipped, after, hrest, hfind, hcases⟩ :=
      closeRound?_cases hne escape before rest
    · -- the delimiter is not found again
      rw [hround, Construct.afterClose?_eq_none_of_find? rfl hnone]
      exact ⟨_, rfl, rfl⟩
    rw [List.append_assoc] at hrest
    subst hrest
    rw [Construct.afterClose?_of_find? rfl hfind, ← List.getLast?_append]
    obtain ⟨hbefore, hskipped, hround⟩ | ⟨hhere, hround⟩ | ⟨c, tail, rfl, hskipped, hescaped, hround⟩ :=
      hcases
    · -- it stands where the text begins
      subst hbefore hskipped
      have hcloses : (Construct.string opening closing escape).closesHere? ([] ++ []).getLast?
          (closing ++ after) = some closing := closesHere?_string hne (by simp)
      rw [hround, Construct.afterClose?_of_closesHere? hcloses]
      exact ⟨_, rfl, [], rfl, by simp⟩
    · -- it stands further on and is not escaped
      have hfree : endsEscaped escape (before ++ skipped) = false := by
        rcases hhere with ⟨-, rfl⟩ | ⟨hskipped, hescaped⟩
        · rw [List.append_nil]
          exact hfresh (List.prefix_append _ _)
        · rw [endsEscaped_append hskipped, hescaped]
      have hlater : before ++ skipped ≠ [] := by
        rcases hhere with ⟨hbefore, -⟩ | ⟨hskipped, -⟩
        · simp [hbefore]
        · simp [hskipped]
      rw [hround, Construct.afterClose?_of_closesHere? (closesHere?_string hne hfree)]
      exact ⟨_, rfl, before ++ skipped, by simp, by rw [if_neg hlater]⟩
    · -- it is escaped there, and the search goes on one character further
      have hlt : byteLength before < byteLength (before ++ skipped ++ [c]) := by
        have := c.utf8Size_pos
        simp
        omega
      have hescaped' : endsEscaped escape (before ++ skipped) = true := by
        rw [endsEscaped_append hskipped, hescaped]
      have hline : before ++ (skipped ++ (c :: tail ++ after)) =
          before ++ skipped ++ [c] ++ (tail ++ after) := by simp
      rw [hround]
      simp only [hlt, if_true]
      rw [afterClose?_string_of_escaped hescaped', hline]
      exact ih (tail ++ after).length (by subst hn; simp; omega)
        (endsEscaped_of_overlap hfind hescaped) rfl

/-- Where a string closes is what the search from the start of the line answers. -/
theorem close_string_of_closeFrom? {line : List Char} {p : Position} (hne : closing ≠ [])
    (h : closeFrom? closing escape line 0 = .ok p) :
    (Construct.string opening closing escape).close line = p := by
  have hclose : (Construct.string opening closing escape).close? line = .ok p := by
    simpa [Construct.close?, hne] using h
  rw [Construct.close?_eq] at hclose
  exact Except.ok.inj hclose

/-- What the search answers for a line. -/
theorem closeAnswer_close (hne : closing ≠ []) (line : List Char) :
    CloseAnswer closing line ((Construct.string opening closing escape).close line)
      ((Construct.string opening closing escape).afterClose? none line) := by
  have hsearch : ∃ p, closeFrom? closing escape ([] ++ line) (byteLength []) = .ok p ∧
      CloseAnswer closing ([] ++ line) p
        ((Construct.string opening closing escape).afterClose? [].getLast? line) :=
    closeFrom?_afterClose? hne (by simp)
  obtain ⟨p, hp, hanswer⟩ := hsearch
  have hclose : (Construct.string opening closing escape).close line = p :=
    close_string_of_closeFrom? hne hp
  rw [hclose]
  exact hanswer

end StringClose

/-! ## Every construct -/

/-- What a search for a close has to answer: nothing found, or the end of the line, or an offset within
the line after which the rest of it is what follows the first close. -/
inductive Construct.Closes (c : Construct) (line : List Char) : Position → Prop where
  | notFound (h : c.afterClose? none line = none) : c.Closes line .notFound
  | lineComment (h : c.kind = .lineComment) : c.Closes line .atLineEnd
  | atLineEnd (h : c.afterClose? none line = some []) : c.Closes line .atLineEnd
  | resume {before after : List Char} (hline : line = before ++ after)
      (h : c.afterClose? none line = some after) : c.Closes line (.resume (byteLength before))

/-- A position just past a delimiter that closes. -/
theorem Construct.Closes.afterDelimiter {c : Construct} {before after : List Char}
    (h : c.afterClose? none (before ++ after) = some after) :
    c.Closes (before ++ after)
      (.afterDelimiter (byteLength before) (byteLength (before ++ after))) := by
  unfold Position.afterDelimiter
  split
  · next hend =>
    rw [byteLength_append] at hend
    have hafter : after = [] := byteLength_eq_zero.mp (by omega)
    exact .atLineEnd (h.trans (congrArg some hafter))
  · exact .resume rfl h

/-- The search answers for every construct and every line where the construct closes. -/
def Closer.Agrees (closer : Closer) : Prop :=
  ∀ c line, ∃ p, closer.search c line = .ok p ∧ c.Closes line p

theorem string_closes (opening closing : List Char) (escape : Option Char) (line : List Char) :
    ∃ p, (Construct.string opening closing escape).close? line = .ok p ∧
      (Construct.string opening closing escape).Closes line p := by
  by_cases hne : closing = []
  · refine ⟨.notFound, by simp [Construct.close?, hne], .notFound ?_⟩
    exact Construct.afterClose?_eq_none (by simp [Construct.closing?, hne])
  · have hanswer : CloseAnswer closing line ((Construct.string opening closing escape).close line)
        ((Construct.string opening closing escape).afterClose? none line) := closeAnswer_close hne line
    refine ⟨_, Construct.close?_eq _ line, ?_⟩
    cases hafter : (Construct.string opening closing escape).afterClose? none line with
    | none =>
      rw [hafter] at hanswer
      exact hanswer ▸ .notFound hafter
    | some after =>
      rw [hafter] at hanswer
      obtain ⟨front, hline, hp⟩ := hanswer
      rw [hp]
      have hline' : line = front ++ closing ++ after := by rw [hline, List.append_assoc]
      split
      · next hfront =>
        subst hfront
        exact .resume hline hafter
      · subst hline'
        exact .afterDelimiter hafter

theorem blockComment_closes (opening closing line : List Char) :
    ∃ p, (Construct.blockComment opening closing).close? line = .ok p ∧
      (Construct.blockComment opening closing).Closes line p := by
  refine ⟨_, rfl, ?_⟩
  unfold findDelimiter
  split
  · next hempty =>
    rw [List.isEmpty_iff] at hempty
    exact .notFound (Construct.afterClose?_eq_none (by simp [Construct.closing?, hempty]))
  · next hempty =>
    have hne : closing ≠ [] := by simpa [List.isEmpty_iff] using hempty
    cases hfind : find? closing line with
    | none => exact .notFound (Construct.afterClose?_eq_none_of_find? rfl hfind)
    | some start =>
      obtain ⟨before, after, rfl, rfl⟩ := exists_of_find?_eq_some hfind
      have hcloses : (Construct.blockComment opening closing).closesHere? (before.getLast?.or none)
          (closing ++ after) = some closing := by
        rw [Construct.closesHere?_eq_some_iff]
        refine ⟨rfl, hne, List.prefix_append _ _, ?_⟩
        cases before.getLast? <;> simp [Construct.escape?]
      have hclose : (Construct.blockComment opening closing).afterClose? none
          (before ++ closing ++ after) = some after := by
        rw [List.append_assoc] at hfind ⊢
        rw [Construct.afterClose?_of_find? rfl hfind, Construct.afterClose?_of_closesHere? hcloses]
      simp only
      rw [← byteLength_append]
      exact .afterDelimiter hclose

/-- **The search in use answers where a construct closes.** -/
theorem Construct.closer_agrees : Construct.closer.Agrees := by
  intro c line
  cases c with
  | string opening closing escape => exact string_closes opening closing escape line
  | lineComment opening => exact ⟨_, rfl, .lineComment rfl⟩
  | blockComment opening closing => exact blockComment_closes opening closing line

end LineCensus
