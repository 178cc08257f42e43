import LineCensus.Fault
import LineCensus.Construct
import LineCensus.Position
import LineCensus.Text.Utf8

/-!
# `Construct.Search` — finding delimiters in a line

## Contents

* `find?` — the offset of the first occurrence of a text in another;
* `findDelimiter` — the position just past a delimiter; an empty one is never found;
* `Construct.opens` — where the construct opens;
* `closeRound?`, `closeFrom?` — one round of the search for the close of a string, and all of them;
  `closeRound?_cases` says all that a round can do;
* `Construct.close?`, `Construct.close` — where the construct closes, once with every cut and every
  step forward checked and once as a total function, by `Construct.close?_spec`.

A string closes at the first occurrence of its closing delimiter that the escape character does not
precede. An occurrence that it does precede is skipped by one character, so that occurrences may
overlap. A close at the very start of the text answers the length of the delimiter even if that is
also the length of the text.
-/

namespace LineCensus

open Text

/-! ## The first occurrence -/

/-- The offset of the first occurrence of `d`, in bytes. -/
def find? (d : List Char) : List Char → Option Nat
  | [] => if d.isEmpty then some 0 else none
  | c :: s => if d.isPrefixOf (c :: s) then some 0 else (find? d s).map (c.utf8Size + ·)

/-- What is found stands in the text, at the offset found. -/
theorem exists_of_find?_eq_some {d s : List Char} {n : Nat} (h : find? d s = some n) :
    ∃ before after, s = before ++ d ++ after ∧ n = byteLength before := by
  induction s generalizing n with
  | nil =>
    simp only [find?, List.isEmpty_iff, Option.ite_none_right_eq_some, Option.some.injEq] at h
    exact ⟨[], [], by simp [h.1], by simp [h.2]⟩
  | cons c s ih =>
    simp only [find?] at h
    split at h
    · next hd =>
      obtain ⟨t, ht⟩ := List.isPrefixOf_iff_prefix.1 hd
      exact ⟨[], t, by simp [ht], by simpa using h.symm⟩
    · obtain ⟨m, hm, rfl⟩ := Option.map_eq_some_iff.1 h
      obtain ⟨before, after, hs, rfl⟩ := ih hm
      exact ⟨c :: before, after, by simp [hs], by simp⟩

/-- The position just past the first occurrence of the delimiter. -/
def findDelimiter (delimiter line : List Char) : Position :=
  if delimiter.isEmpty then .notFound
  else
    match find? delimiter line with
    | none => .notFound
    | some start => .afterDelimiter (start + byteLength delimiter) (byteLength line)

namespace Construct

/-- Where the construct opens in the line. -/
def opens (m : Construct) (line : List Char) : Position := findDelimiter m.opening line

end Construct

/-! ## Where a string closes -/

/-- Whether the text before a closing delimiter ends with the escape character. -/
def endsEscaped (escape : Option Char) (before : List Char) : Bool :=
  escape.isSome && before.getLast? == escape

/-- One round of the search for the close of a string: it ends, or goes on at a later offset. -/
inductive CloseRound where
  | done (position : Position)
  | again (offset : Nat)
deriving DecidableEq, Repr

/-- The round that starts at an offset of the line. -/
def closeRound? (closing : List Char) (escape : Option Char) (line : List Char) (offset : Nat) :
    Checked CloseRound :=
  match cut? offset line with
  | none => .error .cut
  | some (_, rest) =>
    match find? closing rest with
    | none => .ok (.done .notFound)
    | some found =>
      -- right where the round starts the delimiter is taken, whatever stands before it
      if found = 0 then
        if offset = 0 then .ok (.done (.resume (byteLength closing)))
        else .ok (.done (.afterDelimiter (offset + byteLength closing) (byteLength line)))
      else
        match cut? found rest with
        | none => .error .cut
        | some (before, here) =>
          if endsEscaped escape before then
            -- on from the second character of the delimiter: an occurrence may overlap this one
            .ok (.again (offset + found + ((here.head?.map Char.utf8Size).getD 1)))
          else .ok (.done (.afterDelimiter (offset + found + byteLength closing) (byteLength line)))

/-- A round starts within the line. -/
theorem le_byteLength_of_closeRound? {closing line : List Char} {escape : Option Char} {offset : Nat}
    {r : CloseRound} (h : closeRound? closing escape line offset = .ok r) :
    offset ≤ byteLength line := by
  unfold closeRound? at h
  split at h
  · exact absurd h (by simp)
  · next hcut =>
    obtain ⟨rfl, rfl⟩ := cut?_eq_some_iff.1 hcut
    simp

/-- The search for the close of a string from an offset of the line on. -/
def closeFrom? (closing : List Char) (escape : Option Char) (line : List Char) (offset : Nat) :
    Checked Position :=
  match _hround : closeRound? closing escape line offset with
  | .error fault => .error fault
  | .ok (.done position) => .ok position
  | .ok (.again next) =>
    if offset < next then closeFrom? closing escape line next else .error .progress
termination_by byteLength line + 1 - offset
decreasing_by
  have hstart := le_byteLength_of_closeRound? _hround
  omega

/-- A resume offset lies within the text, past its start, at the boundary of a character. -/
def Position.CutsIn (p : Position) (text : List Char) : Prop :=
  ∀ n, p = .resume n → ∃ before after, text = before ++ after ∧ before ≠ [] ∧ n = byteLength before

theorem cutsIn_afterDelimiter {before : List Char} (after : List Char) (h : before ≠ []) :
    (Position.afterDelimiter (byteLength before) (byteLength (before ++ after))).CutsIn
      (before ++ after) := by
  intro n hn
  exact ⟨before, after, rfl, h, (Position.afterDelimiter_eq_resume.1 hn).1.symm⟩

/-- **What a round does**, at the end of `before`: nothing is left to find; or the closing delimiter
comes next after `skipped`, and there the string closes, or it does not and the search goes on one
character further. -/
theorem closeRound?_cases {closing : List Char} (hclosing : closing ≠ []) (escape : Option Char)
    (before rest : List Char) :
    (find? closing rest = none ∧
      closeRound? closing escape (before ++ rest) (byteLength before) = .ok (.done .notFound)) ∨
    ∃ skipped after, rest = skipped ++ closing ++ after ∧
      find? closing rest = some (byteLength skipped) ∧
      ((before = [] ∧ skipped = [] ∧
          closeRound? closing escape (before ++ rest) (byteLength before) =
            .ok (.done (.resume (byteLength closing)))) ∨
        ((before ≠ [] ∧ skipped = [] ∨ skipped ≠ [] ∧ endsEscaped escape skipped = false) ∧
          closeRound? closing escape (before ++ rest) (byteLength before) =
            .ok (.done (.afterDelimiter (byteLength (before ++ skipped ++ closing))
              (byteLength (before ++ rest))))) ∨
        ∃ c tail, closing = c :: tail ∧ skipped ≠ [] ∧ endsEscaped escape skipped = true ∧
          closeRound? closing escape (before ++ rest) (byteLength before) =
            .ok (.again (byteLength (before ++ skipped ++ [c])))) := by
  unfold closeRound?
  simp only [cut?_append]
  cases hfind : find? closing rest with
  | none => exact .inl ⟨rfl, rfl⟩
  | some found =>
    obtain ⟨skipped, after, hrest, rfl⟩ := exists_of_find?_eq_some hfind
    refine .inr ⟨skipped, after, hrest, rfl, ?_⟩
    -- the tests of a round, in its order: where it starts, the start of the line, the escape
    by_cases hskipped : skipped = []
    · by_cases hbefore : before = []
      · exact .inl ⟨hbefore, hskipped, by simp [hbefore, hskipped]⟩
      · exact .inr (.inl ⟨.inl ⟨hbefore, hskipped⟩, by simp [hskipped, byteLength_eq_zero, hbefore]⟩)
    · have hcut : cut? (byteLength skipped) rest = some (skipped, closing ++ after) := by
        rw [hrest, List.append_assoc, cut?_append]
      by_cases hescaped : endsEscaped escape skipped = true
      · obtain ⟨c, tail, rfl⟩ := List.exists_cons_of_ne_nil hclosing
        exact .inr (.inr ⟨c, tail, rfl, hskipped, hescaped,
          by simp [byteLength_eq_zero, hskipped, hcut, hescaped, Nat.add_assoc]⟩)
      · exact .inr (.inl ⟨.inr ⟨hskipped, by simpa using hescaped⟩,
          by simp [byteLength_eq_zero, hskipped, hcut, hescaped, Nat.add_assoc]⟩)

/-- The search for a delimiter that is not empty has no fault, and what it answers can be cut. -/
theorem closeFrom?_spec {closing : List Char} (hclosing : closing ≠ []) (escape : Option Char)
    (before rest : List Char) :
    ∃ p, closeFrom? closing escape (before ++ rest) (byteLength before) = .ok p ∧
      p.CutsIn (before ++ rest) := by
  -- on the length of the text left, which an escaped delimiter shortens
  induction hn : rest.length using Nat.strongRecOn generalizing before rest with
  | ind n ih =>
    rw [closeFrom?]
    obtain ⟨-, hround⟩ | ⟨skipped, after, hrest, -, hcases⟩ :=
      closeRound?_cases hclosing escape before rest
    · rw [hround]
      exact ⟨_, rfl, by simp [Position.CutsIn]⟩
    obtain ⟨hbefore, hskipped, hround⟩ | ⟨-, hround⟩ | ⟨c, tail, rfl, -, -, hround⟩ := hcases
    · rw [hround]
      refine ⟨_, rfl, fun n hn => ⟨closing, after, by simp [hbefore, hrest, hskipped], hclosing, ?_⟩⟩
      simpa using hn.symm
    · rw [hround]
      refine ⟨_, rfl, ?_⟩
      have hne : before ++ skipped ++ closing ≠ [] := by simp [hclosing]
      have hcuts := cutsIn_afterDelimiter after hne
      simpa [hrest] using hcuts
    · rw [hround]
      have hlt : byteLength before < byteLength (before ++ skipped ++ [c]) := by
        have := c.utf8Size_pos
        simp
        omega
      simp only [hlt, if_true]
      have hline : before ++ rest = before ++ skipped ++ [c] ++ (tail ++ after) := by simp [hrest]
      rw [hline]
      exact ih (tail ++ after).length (by subst hn; simp [hrest]; omega) _ _ rfl

theorem findDelimiter_cutsIn (delimiter line : List Char) :
    (findDelimiter delimiter line).CutsIn line := by
  unfold findDelimiter
  split
  · simp [Position.CutsIn]
  · next hd =>
    split
    · simp [Position.CutsIn]
    · next start hfind =>
      obtain ⟨before, after, rfl, rfl⟩ := exists_of_find?_eq_some hfind
      have hne : before ++ delimiter ≠ [] := by simpa [List.isEmpty_iff] using fun _ => hd
      have := cutsIn_afterDelimiter after hne
      simpa using this

/-! ## Where a construct closes -/

namespace Construct

/-- Where the construct closes in the text, which begins inside it. -/
def close? (c : Construct) (text : List Char) : Checked Position :=
  match c with
  | .string _ closing escape =>
    if closing.isEmpty then .ok .notFound else closeFrom? closing escape text 0
  | .lineComment _ => .ok .atLineEnd
  | .blockComment _ closing => .ok (findDelimiter closing text)

theorem close?_spec (c : Construct) (text : List Char) :
    ∃ p, c.close? text = .ok p ∧ p.CutsIn text := by
  cases c with
  | string opening closing escape =>
    simp only [close?]
    split
    · exact ⟨_, rfl, by simp [Position.CutsIn]⟩
    · next h =>
      exact closeFrom?_spec (by simpa [List.isEmpty_iff] using h) escape [] text
  | lineComment => exact ⟨_, rfl, by simp [Position.CutsIn]⟩
  | blockComment => exact ⟨_, rfl, findDelimiter_cutsIn _ _⟩

theorem close?_ok (c : Construct) (text : List Char) : ∃ p, c.close? text = .ok p :=
  (c.close?_spec text).imp fun _ h => h.1

/-- Where the construct closes in the text, which begins inside it. -/
def close (c : Construct) (text : List Char) : Position := (c.close? text).value (c.close?_ok text)

theorem close?_eq (c : Construct) (text : List Char) : c.close? text = .ok (c.close text) :=
  Checked.eq_ok_value _

end Construct

end LineCensus
