import LineCensus.Proofs.Line.Normalized
import LineCensus.Proofs.Line.StringEscape

/-!
# `Proofs.Line.Positions` — what a position tells of a line

A search answers in three ways, and in the integer form with one number. Nothing is lost by that: which of
the three it is says whether the delimiter occurs and whether the line ends with it, and the offset past it
can be had back from the length of the line.

For a search that takes the first occurrence the three answers exclude one another and leave nothing out
(`Position.TellsFirst`). A string is the one construct that closes otherwise. Its search passes over escaped
delimiters, and where the line is nothing but the delimiter it answers with an offset that is the length of
the line. That an offset is never zero holds there, too, since no delimiter that is found is empty.

## Contents

* `EndsAt`, `Position.TellsFirst` — where a delimiter ends, and what an answer says of the first time;
* `findDelimiter_tellsFirst` — the search for a first occurrence;
* `Position.Cuts`, `findDelimiter_cuts`, `close_string_cuts` — the line can be cut right behind what was found;
* `Position.CutsIn.raw_eq_zero_iff` — the integer form is zero only if nothing was found;
* `positions_unambiguous` — all searches of a construct.
-/

namespace LineCensus

open Text

variable {d line : List Char} {n : Nat}

/-! ## The first occurrence -/

/-- An occurrence of the delimiter ends at the offset. An empty delimiter occurs nowhere. -/
def EndsAt (d line : List Char) (n : Nat) : Prop :=
  d ≠ [] ∧ ∃ before, before ++ d <+: line ∧ n = byteLength (before ++ d)

theorem exists_endsAt_iff : (∃ n, EndsAt d line n) ↔ d ≠ [] ∧ d <:+: line := by
  constructor
  · rintro ⟨_, hne, before, ⟨after, hline⟩, -⟩
    exact ⟨hne, before, after, hline⟩
  · rintro ⟨hne, before, after, hline⟩
    exact ⟨_, hne, before, ⟨after, hline⟩, rfl⟩

theorem EndsAt.pos (h : EndsAt d line n) : 0 < n := by
  obtain ⟨hne, before, -, rfl⟩ := h
  exact byteLength_pos (by simp [hne])

theorem EndsAt.le (h : EndsAt d line n) : n ≤ byteLength line := by
  obtain ⟨-, before, hstarts, rfl⟩ := h
  exact byteLength_le_of_prefix hstarts

/-- What is found is where the delimiter ends for the first time. -/
theorem isLeast_of_find? (hne : d ≠ []) (h : find? d line = some n) :
    IsLeast {n | EndsAt d line n} (n + byteLength d) := by
  obtain ⟨before, after, rfl, rfl⟩ := exists_of_find?_eq_some h
  refine ⟨⟨hne, before, List.prefix_append _ _, byteLength_append.symm⟩, ?_⟩
  rintro _ ⟨-, before', ⟨after', hline⟩, rfl⟩
  obtain ⟨m, hm, hle⟩ := find?_append_le (d := d) before' after'
  rw [← List.append_assoc, hline, h] at hm
  obtain rfl := Option.some.inj hm
  rw [byteLength_append]
  exact Nat.add_le_add_right hle _

/-- What an answer says of the first occurrence of a delimiter: nothing is found if there is none; it is at
the end of the line if the first one ends there; and otherwise the offset is the one past the first one,
which is neither of the ends of the line. -/
structure Position.TellsFirst (p : Position) (d line : List Char) : Prop where
  notFound : p = .notFound ↔ d = [] ∨ ¬ d <:+: line
  atLineEnd : p = .atLineEnd ↔ IsLeast {n | EndsAt d line n} (byteLength line)
  resume : ∀ n, p = .resume n ↔ IsLeast {n | EndsAt d line n} n ∧ n ≠ byteLength line
  within : ∀ n, p = .resume n → 0 < n ∧ n < byteLength line

theorem Position.tellsFirst_notFound (h : d = [] ∨ ¬ d <:+: line) :
    Position.notFound.TellsFirst d line := by
  have hnowhere : ∀ n, ¬ IsLeast {n | EndsAt d line n} n := by
    rintro n ⟨hends, -⟩
    obtain ⟨hne, hoccurs⟩ := exists_endsAt_iff.mp ⟨n, hends⟩
    rcases h with hempty | hnone
    · exact hne hempty
    · exact hnone hoccurs
  exact {
    notFound := iff_of_true rfl h
    atLineEnd := iff_of_false (by simp) (hnowhere _)
    resume n := iff_of_false (by simp) fun hleast => hnowhere n hleast.1
    within n hn := by cases hn }

theorem Position.tellsFirst_afterDelimiter (h : IsLeast {n | EndsAt d line n} n) :
    (Position.afterDelimiter n (byteLength line)).TellsFirst d line := by
  have hends : EndsAt d line n := h.1
  have hle : n ≤ byteLength line := hends.le
  have hatEnd : Position.afterDelimiter n (byteLength line) = .atLineEnd ↔ n = byteLength line := by
    unfold Position.afterDelimiter
    split <;> simp <;> omega
  constructor
  · refine iff_of_false Position.afterDelimiter_ne_notFound ?_
    obtain ⟨hne, hoccurs⟩ := exists_endsAt_iff.mp ⟨n, hends⟩
    simp [hne, hoccurs]
  · rw [hatEnd]
    exact ⟨fun heq => heq ▸ h, fun hline => h.unique hline⟩
  · intro m
    rw [Position.afterDelimiter_eq_resume]
    constructor
    · rintro ⟨rfl, hlt⟩
      exact ⟨h, hlt.ne⟩
    · rintro ⟨hm, hne⟩
      obtain rfl := h.unique hm
      exact ⟨rfl, lt_of_le_of_ne hle hne⟩
  · intro m hm
    obtain ⟨rfl, hlt⟩ := Position.afterDelimiter_eq_resume.mp hm
    exact ⟨hends.pos, hlt⟩

/-- **The search for a delimiter tells its first occurrence.** -/
theorem findDelimiter_tellsFirst (d line : List Char) : (findDelimiter d line).TellsFirst d line := by
  unfold findDelimiter
  split
  · next hempty => exact Position.tellsFirst_notFound (.inl (List.isEmpty_iff.mp hempty))
  · next hne =>
    cases hfind : find? d line with
    | none => exact Position.tellsFirst_notFound (.inr (find?_eq_none_iff.mp hfind))
    | some start =>
      have hleast : IsLeast {n | EndsAt d line n} (start + byteLength d) :=
        isLeast_of_find? (by simpa using hne) hfind
      exact Position.tellsFirst_afterDelimiter hleast

/-! ## The offset that can be had back -/

/-- Nothing was found, or the line can be cut at the offset that the position stands for, and the text before
it ends with the delimiter. -/
def Position.Cuts (p : Position) (d line : List Char) : Prop :=
  p = .notFound ∨ ∃ before after, line = before ++ d ++ after ∧
    p.resolve (byteLength line) = some (byteLength (before ++ d))

theorem findDelimiter_cuts (d line : List Char) : (findDelimiter d line).Cuts d line := by
  have htells : (findDelimiter d line).TellsFirst d line := findDelimiter_tellsFirst d line
  cases hp : findDelimiter d line with
  | notFound => exact .inl rfl
  | atLineEnd =>
    obtain ⟨⟨-, before, ⟨after, hline⟩, hlength⟩, -⟩ := htells.atLineEnd.mp hp
    exact .inr ⟨before, after, hline.symm, congrArg some hlength⟩
  | resume n =>
    obtain ⟨⟨⟨-, before, ⟨after, hline⟩, rfl⟩, -⟩, -⟩ := (htells.resume n).mp hp
    exact .inr ⟨before, after, hline.symm, rfl⟩

theorem close_string_cuts (opening closing line : List Char) (escape : Option Char) :
    ((Construct.string opening closing escape).close line).Cuts closing line := by
  by_cases hne : closing = []
  · subst hne
    exact .inl rfl
  · have hsearch := resolve_close_string opening hne escape line
    cases hn : ((Construct.string opening closing escape).close line).resolve (byteLength line) with
    | none => exact .inl (Position.resolve_eq_none_iff.mp hn)
    | some n =>
      rw [hn] at hsearch
      obtain ⟨skipped, rfl, ⟨⟨after, hline⟩, -⟩, -⟩ := hsearch
      exact .inr ⟨skipped, after, hline.symm, hn⟩

/-! ## The integer form -/

/-- An offset past the start of a text is not zero. -/
theorem Position.CutsIn.ne_resume_zero {p : Position} (h : p.CutsIn line) : p ≠ .resume 0 := by
  intro hp
  obtain ⟨before, -, -, hne, hzero⟩ := h 0 hp
  exact hne (byteLength_eq_zero.mp hzero.symm)

theorem Position.CutsIn.raw_eq_zero_iff {p : Position} (h : p.CutsIn line) :
    p.raw = 0 ↔ p = .notFound := by
  cases p with
  | notFound => exact iff_of_true rfl rfl
  | atLineEnd => exact iff_of_false (by decide) (by simp)
  | resume n =>
    have hpos : 0 < n := Nat.pos_of_ne_zero fun hzero => h.ne_resume_zero (hzero ▸ rfl)
    refine iff_of_false ?_ (by simp)
    have hlimit : 0 < Position.rawLimit := by decide
    show ((min n Position.rawLimit : Nat) : Int) ≠ 0
    omega

theorem close_cutsIn (c : Construct) (line : List Char) : (c.close line).CutsIn line := by
  obtain ⟨p, hp, hcuts⟩ := c.close?_spec line
  rw [c.close?_eq] at hp
  rwa [Except.ok.inj hp]

/-! ## All searches of a construct -/

/-- **The answers of all searches are unambiguous**, for arbitrary delimiters. Where a construct opens, and
where a block comment closes, the answer tells the first occurrence of the delimiter. No answer is the offset
zero, and so the integer form is zero only if nothing was found. A string closes at the offset that is the
length of the line exactly if the line is its closing delimiter. And wherever a delimiter was found, the line
can be cut at the offset had back from the position, right behind the delimiter; a line comment, which closes
at the end of the line, has no closing one. -/
theorem positions_unambiguous (line : List Char) :
    (∀ c : Construct, (c.opens line).TellsFirst c.opening line) ∧
    (∀ opening closing,
      ((Construct.blockComment opening closing).close line).TellsFirst closing line) ∧
    (∀ c : Construct, c.opens line ≠ .resume 0 ∧ c.close line ≠ .resume 0 ∧
      ((c.opens line).raw = 0 ↔ c.opens line = .notFound) ∧
      ((c.close line).raw = 0 ↔ c.close line = .notFound)) ∧
    (∀ opening closing escape,
      (Construct.string opening closing escape).close line = .resume (byteLength line) ↔
        closing ≠ [] ∧ line = closing) ∧
    (∀ c : Construct, (c.opens line).Cuts c.opening line) ∧
    (∀ opening closing escape, ((Construct.string opening closing escape).close line).Cuts closing line) ∧
    ∀ opening closing, ((Construct.blockComment opening closing).close line).Cuts closing line := by
  refine ⟨fun c => findDelimiter_tellsFirst c.opening line,
    fun _ closing => findDelimiter_tellsFirst closing line, fun c => ?_, ?_,
    fun c => findDelimiter_cuts c.opening line, fun opening closing => close_string_cuts opening closing line,
    fun _ closing => findDelimiter_cuts closing line⟩
  · have hopens : (c.opens line).CutsIn line := findDelimiter_cutsIn c.opening line
    have hclose : (c.close line).CutsIn line := close_cutsIn c line
    exact ⟨hopens.ne_resume_zero, hclose.ne_resume_zero, hopens.raw_eq_zero_iff, hclose.raw_eq_zero_iff⟩
  · intro opening closing escape
    constructor
    · intro hclose
      obtain ⟨hne, rfl⟩ := exists_close_string_iff.mp ⟨_, hclose, Nat.le_refl _⟩
      exact ⟨hne, rfl⟩
    · rintro ⟨hne, rfl⟩
      exact close_string_self hne

end LineCensus
