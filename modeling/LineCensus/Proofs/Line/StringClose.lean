import Mathlib.Order.Bounds.Basic
import LineCensus.Proofs.Line.Close

/-!
# `Proofs.Line.StringClose` — where a string closes, said without a search

Two descriptions of where a string closes in a line, neither of which mentions rounds or where one starts.

* *By occurrences.* The closing delimiter closes wherever it stands, overlapping or not, unless the escape
  character is right before it; the first such place counts. At the very start of the line nothing is
  before it.
* *By recursion.* Only the first occurrence is looked at. If it is escaped, the answer is that for the text
  one character after its start, moved to where that text begins. The recursion takes what stands at the
  start of each shorter text without a look at the character before, and brings an answer to the form for
  the end of the line at each of its levels.

The search goes on in rounds and keeps an offset. That a round may take what stands where it starts agrees
with the first description, since an escaped delimiter does not escape one that overlaps it
(`endsEscaped_of_overlap`). It agrees with the second one because answers can be moved over all levels at
once (`moved_moved`).

## Contents

* `ClosesAt`, `close_string_at_least` — the first place where the delimiter closes;
* `closeByRecursion`, `moved` — the recursion, and its answers as answers for a longer text;
* `closeFrom?_eq_recursion` — the search from an offset on;
* `raw_close_string` — the whole line.
-/

namespace LineCensus

open Text

variable {opening closing line : List Char} {escape : Option Char}

/-! ## The first place that closes -/

/-- The closing delimiter stands at an offset of the line and closes the string there: nothing is before it,
or there is no escape character, or another character is. -/
def ClosesAt (closing : List Char) (escape : Option Char) (line : List Char) (i : Nat) : Prop :=
  ∃ before, before ++ closing <+: line ∧ i = byteLength before ∧
    (i = 0 ∨ escape = none ∨ before.getLast? ≠ escape)

theorem endsEscaped_eq_false_iff_of_byteLength {before : List Char} :
    endsEscaped escape before = false ↔
      byteLength before = 0 ∨ escape = none ∨ before.getLast? ≠ escape := by
  rw [endsEscaped_eq_false_iff, byteLength_eq_zero, List.getLast?_eq_none_iff]
  cases escape with
  | none =>
    cases before <;> simp
  | some e => simp

/-- After some text that is read over, with `before` read earlier, the closing delimiter stands and is not
escaped. -/
def FreeAfter (closing : List Char) (escape : Option Char) (before rest skipped : List Char) : Prop :=
  skipped ++ closing <+: rest ∧ endsEscaped escape (before ++ skipped) = false

theorem freeAfter_cons_iff {before rest skipped : List Char} {ch ch' : Char} :
    FreeAfter closing escape before (ch :: rest) (ch' :: skipped) ↔
      ch' = ch ∧ FreeAfter closing escape (before ++ [ch]) rest skipped := by
  unfold FreeAfter
  rw [List.cons_append, List.cons_prefix_cons, and_assoc]
  constructor
  · rintro ⟨rfl, hstarts, hfree⟩
    exact ⟨rfl, hstarts, by simpa using hfree⟩
  · rintro ⟨rfl, hstarts, hfree⟩
    exact ⟨rfl, hstarts, by simpa using hfree⟩

/-- Where no close is read, nothing stands that would close. -/
theorem not_freeAfter_nil (hne : closing ≠ []) {before rest : List Char}
    (h : (Construct.string opening closing escape).closesHere? before.getLast? rest = none) :
    ¬ FreeAfter closing escape before rest [] := by
  rintro ⟨⟨after, hafter⟩, hfree⟩
  rw [List.nil_append] at hafter
  rw [List.append_nil] at hfree
  rw [← hafter, closesHere?_string hne hfree] at h
  exact absurd h (by simp)

/-- What follows the first close tells where that is: the delimiter stands free after some text, and after no
shorter one. -/
theorem afterClose?_string_spec (opening : List Char) (hne : closing ≠ []) (escape : Option Char)
    (before rest : List Char) :
    match (Construct.string opening closing escape).afterClose? before.getLast? rest with
    | none => ∀ skipped, ¬ FreeAfter closing escape before rest skipped
    | some after => ∃ skipped, rest = skipped ++ (closing ++ after) ∧
        FreeAfter closing escape before rest skipped ∧
        ∀ skipped', FreeAfter closing escape before rest skipped' →
          byteLength skipped ≤ byteLength skipped' := by
  induction rest generalizing before with
  | nil =>
    rintro skipped ⟨hstarts, -⟩
    have hnil : skipped ++ closing = [] := List.prefix_nil.mp hstarts
    exact hne (List.append_eq_nil_iff.mp hnil).2
  | cons ch rest ih =>
    rw [Construct.afterClose?]
    cases hhere : (Construct.string opening closing escape).closesHere? before.getLast? (ch :: rest) with
    | some d =>
      obtain ⟨hd, -, ⟨after, hafter⟩, hlast⟩ := Construct.closesHere?_eq_some_iff.mp hhere
      obtain rfl : closing = d := Option.some.inj hd
      refine ⟨[], ?_, ⟨⟨after, hafter⟩, ?_⟩, fun skipped' _ => Nat.zero_le _⟩
      · rw [← hafter, List.drop_left, List.nil_append]
      · rw [List.append_nil, endsEscaped_eq_false_iff]
        exact hlast
    | none =>
      -- nothing closes right here, and for all that follows the next character is before it
      have hhere' : ¬ FreeAfter closing escape before (ch :: rest) [] := not_freeAfter_nil hne hhere
      have hnext := ih (before ++ [ch])
      rw [List.getLast?_concat] at hnext
      cases hafter : (Construct.string opening closing escape).afterClose? (some ch) rest with
      | none =>
        rw [hafter] at hnext
        intro skipped hfree
        cases skipped with
        | nil => exact hhere' hfree
        | cons ch' skipped => exact hnext skipped (freeAfter_cons_iff.mp hfree).2
      | some after =>
        rw [hafter] at hnext
        obtain ⟨skipped, hrest, hfree, hleast⟩ := hnext
        refine ⟨ch :: skipped, by rw [hrest, List.cons_append], freeAfter_cons_iff.mpr ⟨rfl, hfree⟩, ?_⟩
        intro skipped' hfree'
        cases skipped' with
        | nil => exact absurd hfree' hhere'
        | cons ch' skipped' =>
          obtain ⟨rfl, hlater⟩ := freeAfter_cons_iff.mp hfree'
          exact Nat.add_le_add_left (hleast skipped' hlater) _

/-- The offsets where a string closes are those that text before a free delimiter takes. -/
theorem closesAt_iff {i : Nat} :
    ClosesAt closing escape line i ↔
      ∃ before, FreeAfter closing escape [] line before ∧ i = byteLength before := by
  constructor
  · rintro ⟨before, hstarts, rfl, hfree⟩
    exact ⟨before, ⟨hstarts, endsEscaped_eq_false_iff_of_byteLength.mpr hfree⟩, rfl⟩
  · rintro ⟨before, ⟨hstarts, hfree⟩, rfl⟩
    exact ⟨before, hstarts, rfl, endsEscaped_eq_false_iff_of_byteLength.mp hfree⟩

/-- The offset past a delimiter that stands in the line is at the end of the line or before it. -/
theorem afterDelimiter_of_starts {before : List Char} (h : before <+: line) :
    Position.afterDelimiter (byteLength before) (byteLength line) =
      if byteLength before = byteLength line then .atLineEnd else .resume (byteLength before) := by
  have hle : byteLength before ≤ byteLength line := byteLength_le_of_prefix h
  unfold Position.afterDelimiter
  split <;> split <;> first | rfl | omega

/-- **A string closes at the least offset where its delimiter closes**, and not at all if there is none. The
answer is the offset past the delimiter, or that the line ends there; at the very start of the line it is
the length of the delimiter, whatever follows. -/
theorem close_string_at_least (opening : List Char) (hne : closing ≠ []) (escape : Option Char)
    (line : List Char) :
    let p := (Construct.string opening closing escape).close line
    (p = .notFound ↔ ∀ i, ¬ ClosesAt closing escape line i) ∧
      ∀ i, IsLeast {i | ClosesAt closing escape line i} i →
        p = if i = 0 then .resume (byteLength closing)
          else if i + byteLength closing = byteLength line then .atLineEnd
          else .resume (i + byteLength closing) := by
  intro p
  have hanswer : CloseAnswer closing line p
      ((Construct.string opening closing escape).afterClose? none line) := closeAnswer_close hne line
  have hspec := afterClose?_string_spec opening hne escape [] line
  rw [List.getLast?_nil] at hspec
  simp only [closesAt_iff]
  cases hafter : (Construct.string opening closing escape).afterClose? none line with
  | none =>
    rw [hafter] at hanswer hspec
    refine ⟨iff_of_true hanswer ?_, ?_⟩
    · rintro _ ⟨before, hfree, -⟩
      exact hspec before hfree
    · rintro _ ⟨⟨before, hfree, -⟩, -⟩
      exact absurd hfree (hspec before)
  | some after =>
    rw [hafter] at hanswer hspec
    obtain ⟨front, hline, hp⟩ := hanswer
    obtain ⟨skipped, hline', hfree, hleast⟩ := hspec
    obtain rfl : skipped = front := List.append_cancel_right (hline'.symm.trans hline)
    have hfirst : IsLeast {i | ∃ before, FreeAfter closing escape [] line before ∧ i = byteLength before}
        (byteLength skipped) := by
      refine ⟨⟨skipped, hfree, rfl⟩, ?_⟩
      rintro _ ⟨before, hbefore, rfl⟩
      exact hleast before hbefore
    have hpast : p = if byteLength skipped = 0 then .resume (byteLength closing)
        else if byteLength skipped + byteLength closing = byteLength line then .atLineEnd
        else .resume (byteLength skipped + byteLength closing) := by
      rw [hp, afterDelimiter_of_starts hfree.1, byteLength_append]
      simp only [byteLength_eq_zero]
    refine ⟨iff_of_false ?_ fun hnowhere => hnowhere _ hfirst.1, ?_⟩
    · rw [hpast]
      split <;> [skip; split] <;> simp
    · intro i hi
      rw [hi.unique hfirst]
      exact hpast

/-- Two quotes close, and a backslash escapes. The first of two occurrences that overlap is escaped; before
the other one stands a quote, and the line ends with it. -/
theorem close_string_at_least_overlapping :
    let closing := ['"', '"']
    let line := ['é', '\\', '"', '"', '"']
    closing ≠ [] ∧ IsLeast {i | ClosesAt closing (some '\\') line i} 4 ∧
      (Construct.string closing closing (some '\\')).close line = .atLineEnd := by
  intro closing line
  have hne : closing ≠ [] := by decide
  have hleast : IsLeast {i | ClosesAt closing (some '\\') line i} 4 := by
    refine ⟨⟨['é', '\\', '"'], by decide, by decide, by decide⟩, ?_⟩
    rintro _ ⟨before, ⟨after, hafter⟩, rfl, hfree⟩
    match before with
    | [] => exact absurd (List.cons.inj hafter).1 (by decide)
    | [a] =>
      obtain ⟨-, hrest⟩ := List.cons.inj hafter
      exact absurd (List.cons.inj hrest).1 (by decide)
    | [a, b] =>
      -- here the escape character is right before it
      obtain ⟨rfl, hrest⟩ := List.cons.inj hafter
      obtain ⟨rfl, -⟩ := List.cons.inj hrest
      exact absurd hfree (by decide)
    | a :: b :: c :: before =>
      obtain ⟨rfl, -⟩ := List.cons.inj hafter
      have hb := b.utf8Size_pos
      have hc := c.utf8Size_pos
      have ha : 'é'.utf8Size = 2 := by decide
      simp only [byteLength_cons]
      omega
  exact ⟨hne, hleast, (close_string_at_least closing hne (some '\\') line).2 4 hleast⟩

/-! ## The recursion -/

/-- The text before the first occurrence of `d`, and the text from there on. -/
def splitFirst? (d : List Char) : List Char → Option (List Char × List Char)
  | [] => if d.isEmpty then some ([], []) else none
  | c :: s =>
    if d.isPrefixOf (c :: s) then some ([], c :: s)
    else (splitFirst? d s).map fun halves => (c :: halves.1, halves.2)

theorem append_of_splitFirst? {d s before here : List Char} (h : splitFirst? d s = some (before, here)) :
    s = before ++ here := by
  induction s generalizing before here with
  | nil =>
    simp only [splitFirst?, Option.ite_none_right_eq_some, Option.some.injEq, Prod.mk.injEq] at h
    obtain ⟨-, rfl, rfl⟩ := h
    rfl
  | cons c s ih =>
    rw [splitFirst?] at h
    split at h
    · obtain ⟨rfl, rfl⟩ := Prod.mk.inj (Option.some.inj h)
      rfl
    · obtain ⟨⟨before, here⟩, hsplit, hhalves⟩ := Option.map_eq_some_iff.mp h
      obtain ⟨rfl, rfl⟩ := Prod.mk.inj hhalves
      rw [List.cons_append, ← ih hsplit]

theorem splitFirst?_eq_none_iff {d s : List Char} : splitFirst? d s = none ↔ find? d s = none := by
  induction s with
  | nil => simp [splitFirst?, find?]
  | cons c s ih => by_cases hd : d <+: c :: s <;> simp [splitFirst?, find?, hd, ih]

/-- The search finds where the text before the first occurrence ends. -/
theorem splitFirst?_of_find? {d before here : List Char}
    (h : find? d (before ++ here) = some (byteLength before)) :
    splitFirst? d (before ++ here) = some (before, here) := by
  induction before with
  | nil =>
    obtain ⟨front, after, hsplit, hfront⟩ := exists_of_find?_eq_some h
    obtain rfl : front = [] := byteLength_eq_zero.mp hfront.symm
    have hstarts : d <+: here := ⟨after, by simpa using hsplit.symm⟩
    cases here with
    | nil => simp [splitFirst?, List.prefix_nil.mp hstarts]
    | cons c here => simp [splitFirst?, hstarts]
  | cons c before ih =>
    have hlater : ¬ d <+: c :: (before ++ here) :=
      not_prefix_of_find? (t := c :: before) h List.suffix_rfl (by simp)
    rw [List.cons_append, find?_cons_eq_map hlater] at h
    obtain ⟨n, hn, hlength⟩ := Option.map_eq_some_iff.mp h
    obtain rfl : n = byteLength before := Nat.add_left_cancel hlength
    simp [splitFirst?, hlater, ih hn]

/-- An offset in the form for the end of the line: -1 there, and the offset itself before it. -/
def endForm (offset : Int) (length : Nat) : Int := if offset = length then -1 else offset

/-- An answer for a text that begins `n` bytes into one of `length` bytes, as an answer for that one. -/
def moved (n length : Nat) (answer : Int) : Int :=
  if answer ≤ 0 then answer else endForm (n + answer) length

/-- Where a string closes in the text that it begins in, by looking at the first occurrence of the delimiter
only: 0 if there is none; the length of the delimiter if it stands at the start; if it is not escaped, where
it ends, in the form for the end of the line; and otherwise what holds of the text one character after its
start, moved to where that text begins. -/
def closeByRecursion (closing : List Char) (escape : Option Char) (text : List Char) : Int :=
  match _hsplit : splitFirst? closing text with
  | none => 0
  | some (before, here) =>
    if _hstart : before = [] then byteLength closing
    else if endsEscaped escape before then
      moved (byteLength (before ++ here.take 1)) (byteLength text)
        (closeByRecursion closing escape (here.drop 1))
    else endForm (byteLength (before ++ closing)) (byteLength text)
termination_by text.length
decreasing_by
  have := List.length_pos_iff.mpr _hstart
  rw [append_of_splitFirst? _hsplit, List.length_append, List.length_drop]
  omega

/-! ### One level of the recursion -/

section Levels

variable {skipped after : List Char}

theorem closeByRecursion_of_find?_none {text : List Char} (h : find? closing text = none) :
    closeByRecursion closing escape text = 0 := by
  rw [closeByRecursion, splitFirst?_eq_none_iff.mpr h]

theorem closeByRecursion_at_start :
    closeByRecursion closing escape (closing ++ after) = byteLength closing := by
  have hsplit : splitFirst? closing ([] ++ (closing ++ after)) = some ([], closing ++ after) :=
    splitFirst?_of_find? (find?_eq_some_zero (List.prefix_append _ _))
  rw [closeByRecursion, ← List.nil_append (closing ++ after), hsplit]
  simp

theorem closeByRecursion_of_free (hskipped : skipped ≠ []) (hfree : endsEscaped escape skipped = false)
    (hfind : find? closing (skipped ++ (closing ++ after)) = some (byteLength skipped)) :
    closeByRecursion closing escape (skipped ++ (closing ++ after)) =
      endForm (byteLength (skipped ++ closing)) (byteLength (skipped ++ (closing ++ after))) := by
  rw [closeByRecursion, splitFirst?_of_find? hfind]
  simp [hskipped, hfree]

theorem closeByRecursion_of_escaped {c : Char} {tail : List Char} (hskipped : skipped ≠ [])
    (hescaped : endsEscaped escape skipped = true)
    (hfind : find? (c :: tail) (skipped ++ (c :: tail ++ after)) = some (byteLength skipped)) :
    closeByRecursion (c :: tail) escape (skipped ++ (c :: tail ++ after)) =
      moved (byteLength (skipped ++ [c])) (byteLength (skipped ++ (c :: tail ++ after)))
        (closeByRecursion (c :: tail) escape (tail ++ after)) := by
  rw [closeByRecursion, splitFirst?_of_find? hfind]
  simp [hskipped, hescaped]

end Levels

/-! ### The search against the recursion -/

/-- The integer form of a position, for offsets of any size. -/
def Position.form : Position → Int
  | .notFound => 0
  | .atLineEnd => -1
  | .resume offset => offset

theorem Position.raw_eq_min_form (p : Position) : p.raw = min p.form Position.rawLimit := by
  cases p with
  | notFound => decide
  | atLineEnd => decide
  | resume offset =>
    show ((min offset rawLimit : Nat) : Int) = min (offset : Int) rawLimit
    omega

theorem Position.CutsIn.form_le {p : Position} (h : p.CutsIn line) : p.form ≤ byteLength line := by
  cases p with
  | notFound => exact Int.natCast_nonneg _
  | atLineEnd =>
    show (-1 : Int) ≤ byteLength line
    omega
  | resume offset =>
    obtain ⟨before, after, rfl, -, rfl⟩ := h offset rfl
    show (byteLength before : Int) ≤ byteLength (before ++ after)
    rw [byteLength_append]
    omega

theorem form_afterDelimiter {before : List Char} (h : before <+: line) :
    (Position.afterDelimiter (byteLength before) (byteLength line)).form =
      endForm (byteLength before) (byteLength line) := by
  rw [afterDelimiter_of_starts h, endForm]
  by_cases hend : byteLength before = byteLength line
  · rw [if_pos hend, if_pos (congrArg Nat.cast hend)]
    rfl
  · have hend' : (byteLength before : Int) ≠ byteLength line := by omega
    rw [if_neg hend, if_neg hend']
    rfl

theorem moved_of_pos {n length : Nat} {answer : Int} (h : 0 < answer) :
    moved n length answer = endForm (n + answer) length := if_neg (Int.not_le.mpr h)

/-- An offset in the form for the end of a text is moved as the offset itself is. -/
theorem moved_endForm {n length : Nat} {offset : Int} (h : 0 < offset) :
    moved n (n + length) (endForm offset length) = endForm (n + offset) (n + length : Nat) := by
  unfold moved endForm
  push_cast
  split <;> split <;> omega

/-- **Answers are moved over two levels at once.** -/
theorem moved_moved (m n length : Nat) (answer : Int) :
    moved m (m + length) (moved n length answer) = moved (m + n) (m + length) answer := by
  by_cases hle : answer ≤ 0
  · simp [moved, hle]
  · have hpos : 0 < answer := Int.not_le.mp hle
    rw [moved_of_pos hpos, moved_of_pos hpos, moved_endForm (by omega), Int.natCast_add, Int.add_assoc]

/-- An answer for what is left of a line after `before`, as an answer for the line. -/
def seenFrom (before : List Char) (length : Nat) (answer : Int) : Int :=
  if before = [] then answer else moved (byteLength before) length answer

theorem seenFrom_endForm {before : List Char} {length : Nat} {offset : Int} (h : 0 < offset) :
    seenFrom before (byteLength before + length) (endForm offset length) =
      endForm (byteLength before + offset) (byteLength before + length : Nat) := by
  unfold seenFrom
  split
  · next hbefore => simp [hbefore]
  · exact moved_endForm h

theorem seenFrom_moved {before : List Char} {n length : Nat} {answer : Int} :
    seenFrom before (byteLength before + length) (moved n length answer) =
      moved (byteLength before + n) (byteLength before + length) answer := by
  unfold seenFrom
  split
  · next hbefore => simp [hbefore]
  · exact moved_moved _ n length answer

/-- **The search from an offset on** gives the answer of the recursion for the text that is left there, as an
answer for the line. -/
theorem closeFrom?_eq_recursion (hne : closing ≠ []) (escape : Option Char) (before rest : List Char) :
    ∃ p, closeFrom? closing escape (before ++ rest) (byteLength before) = .ok p ∧
      p.form = seenFrom before (byteLength (before ++ rest)) (closeByRecursion closing escape rest) := by
  -- on the length of the text left, which an escaped delimiter shortens
  induction hn : rest.length using Nat.strongRecOn generalizing before rest with
  | ind n ih =>
    rw [closeFrom?]
    obtain ⟨hnone, hround⟩ | ⟨skipped, after, hrest, hfind, hcases⟩ :=
      closeRound?_cases hne escape before rest
    · rw [hround, closeByRecursion_of_find?_none hnone]
      exact ⟨_, rfl, by simp [seenFrom, moved, Position.form]⟩
    rw [List.append_assoc] at hrest
    subst hrest
    have hpos : 0 < byteLength closing := byteLength_pos hne
    obtain ⟨rfl, rfl, hround⟩ | ⟨hhere, hround⟩ | ⟨c, tail, rfl, hskipped, hescaped, hround⟩ := hcases
    · -- at the start of the line both answer the length
      rw [hround]
      refine ⟨_, rfl, ?_⟩
      rw [seenFrom, if_pos rfl]
      exact closeByRecursion_at_start.symm
    · have hstarts : before ++ skipped ++ closing <+: before ++ (skipped ++ (closing ++ after)) :=
        ⟨after, by simp⟩
      rw [hround]
      refine ⟨_, rfl, ?_⟩
      rw [form_afterDelimiter hstarts]
      rcases hhere with ⟨hbefore, rfl⟩ | ⟨hskipped, hfree⟩
      · -- at the start of what is left the recursion answers the length, too, and then moves it
        rw [List.nil_append, closeByRecursion_at_start, seenFrom, if_neg hbefore, moved_of_pos (by omega),
          List.append_nil, byteLength_append, Int.natCast_add]
      · rw [closeByRecursion_of_free hskipped hfree hfind, byteLength_append (s := before),
          seenFrom_endForm (by simp; omega), List.append_assoc, byteLength_append, Int.natCast_add]
    · -- what is left after an escaped delimiter does not begin where the line does
      have hlt : byteLength before < byteLength (before ++ skipped ++ [c]) := by
        have := c.utf8Size_pos
        simp
        omega
      have hline : before ++ (skipped ++ (c :: tail ++ after)) =
          before ++ skipped ++ [c] ++ (tail ++ after) := by simp
      have hlater : before ++ skipped ++ [c] ≠ [] := by simp
      obtain ⟨p, hp, hform⟩ := ih (tail ++ after).length (by subst hn; simp; omega)
        (before ++ skipped ++ [c]) (tail ++ after) rfl
      rw [← hline] at hp hform
      rw [hround]
      simp only [hlt, if_true]
      refine ⟨p, hp, ?_⟩
      rw [hform, closeByRecursion_of_escaped hskipped hescaped hfind, byteLength_append (s := before),
        seenFrom_moved, seenFrom, if_neg hlater, List.append_assoc, byteLength_append]

/-- **The search answers what the recursion answers**, on every line: as an integer it is the answer of the
recursion, capped at the largest offset that the integer form can hold. No line that fits in memory gets
there, and then nothing is capped. -/
theorem raw_close_string (opening : List Char) (hne : closing ≠ []) (escape : Option Char)
    (line : List Char) :
    let raw := ((Construct.string opening closing escape).close line).raw
    raw = min (closeByRecursion closing escape line) Position.rawLimit ∧
      (byteLength line ≤ Position.rawLimit → raw = closeByRecursion closing escape line) := by
  intro raw
  obtain ⟨p, hp, hform⟩ := closeFrom?_eq_recursion hne escape [] line
  obtain ⟨p', hp', hcuts⟩ := closeFrom?_spec hne escape [] line
  obtain rfl : p' = p := Except.ok.inj (hp'.symm.trans hp)
  have hclose : (Construct.string opening closing escape).close line = p' :=
    close_string_of_closeFrom? hne hp
  have hraw : raw = min p'.form Position.rawLimit := by
    rw [← Position.raw_eq_min_form, ← hclose]
  have hanswer : p'.form = closeByRecursion closing escape line := hform
  refine ⟨by rw [hraw, hanswer], fun hfits => ?_⟩
  have hle : p'.form ≤ byteLength line := hcuts.form_le
  rw [hraw, ← hanswer, min_eq_left (by omega)]

/-- On the same line the recursion takes the second occurrence at the start of a shorter text, where its
answer is not in the form for the end of a line, and brings it to that form one level further out. -/
theorem raw_close_string_overlapping :
    let closing := ['"', '"']
    let line := ['é', '\\', '"', '"', '"']
    closing ≠ [] ∧ byteLength line ≤ Position.rawLimit ∧ closeByRecursion closing (some '\\') line = -1 ∧
      ((Construct.string closing closing (some '\\')).close line).raw = -1 := by
  intro closing line
  have hne : closing ≠ [] := by decide
  have hfits : byteLength line ≤ Position.rawLimit := by decide
  have hinner : closeByRecursion closing (some '\\') ['"', '"'] = 2 := closeByRecursion_at_start
  have hrecursion : closeByRecursion closing (some '\\') line = -1 := by
    have hfind : find? closing (['é', '\\'] ++ (closing ++ ['"'])) = some (byteLength ['é', '\\']) := by decide
    have houter : closeByRecursion closing (some '\\') line =
        moved 4 6 (closeByRecursion closing (some '\\') ['"', '"']) :=
      closeByRecursion_of_escaped (List.cons_ne_nil _ _) rfl hfind
    rw [houter, hinner]
    rfl
  exact ⟨hne, hfits, hrecursion, ((raw_close_string closing hne (some '\\') line).2 hfits).trans hrecursion⟩

end LineCensus
