import LineCensus.Proofs.Line.Reachable
import LineCensus.Proofs.Text.LossyLines

/-!
# `Proofs.Tally.Parts` — a text counted in parts

A text may be counted in parts if it is parted behind a line feed: then no line is cut and none is added
(`lines_append`), and tallies add up line by line in whatever groups (`Tally.ofKinds_append`). What the
parts have to do with each other is the construct that the first one leaves open; the second one is scanned
from there.

How lines end is of no matter either: a carriage return before each line feed goes with it
(`lines_withReturns`), as long as there was none before.

## Contents

* `terminated_append`, `lines_append` — cutting a text that is parted behind a separator;
* `Tally.foldl_record`, `Tally.ofKinds_append`, `countLines_append` — tallies of lines in two groups;
* `withReturns`, `lines_withReturns` — the other way to end lines;
* `countText_in_parts` — the tally of a text, of its parts, and with its lines ended the other way.
-/

namespace LineCensus

open Text

variable {cs : List Construct} {opened : Option Opened}

/-! ## Lines -/

/-- What is parted behind a separator is cut in the same places as the parts are. -/
theorem terminated_append {α : Type} [BEq α] [LawfulBEq α] {sep : α} {s : List α}
    (h : s = [] ∨ s.getLast? = some sep) (t : List α) :
    terminated sep (s ++ t) = terminated sep s ++ terminated sep t := by
  induction s using separated_induction sep with
  | last s hs =>
    obtain rfl | hlast := h
    · rfl
    · exact absurd (List.mem_of_getLast? hlast) hs
  | piece s rest hs ih =>
    have hrest : rest = [] ∨ rest.getLast? = some sep := by
      by_cases hne : rest = []
      · exact .inl hne
      · rw [List.getLast?_append_cons, List.getLast?_cons_of_ne_nil hne] at h
        exact .inr (h.resolve_left (by simp))
    rw [List.append_assoc, List.cons_append, terminated_append_cons hs, terminated_append_cons hs, ih hrest,
      List.cons_append]

/-- The lines of a text are those of its parts if the first one ends with a line feed. -/
theorem lines_append {front : List Char} (h : front = [] ∨ front.getLast? = some '\n') (back : List Char) :
    lines (front ++ back) = lines front ++ lines back := by
  rw [lines, terminated_append h, List.map_append]
  rfl

/-! ## Tallies -/

namespace Tally

/-- A line is recorded in a sum by recording it in the second part. -/
theorem record_add (s t : Tally) (kind : LineKind) : (s + t).record kind = s + t.record kind := by
  cases kind <;> rfl

theorem foldl_record (s t : Tally) (kinds : List LineKind) :
    kinds.foldl record (s + t) = s + kinds.foldl record t := by
  induction kinds generalizing t with
  | nil => rfl
  | cons kind kinds ih => rw [List.foldl_cons, record_add, ih, List.foldl_cons]

/-- The tally of lines in two groups. -/
theorem ofKinds_append (kinds more : List LineKind) :
    ofKinds (kinds ++ more) = ofKinds kinds + ofKinds more := by
  have hzero : ofKinds kinds + {} = ofKinds kinds := rfl
  rw [ofKinds, List.foldl_append, ← ofKinds, ← hzero, foldl_record]
  rfl

end Tally

/-- Lines are counted in two groups by scanning the second one from where the first one ends. -/
theorem countLines_append (front back : List (List Char)) :
    countLines cs opened (front ++ back) =
      countLines cs opened front + countLines cs (stateAfter cs opened front) back := by
  rw [countLines, kindsOf_append, Tally.ofKinds_append]
  rfl

/-! ## Carriage returns -/

/-- The text with a carriage return before each line feed. -/
def withReturns (text : List Char) : List Char :=
  text.flatMap fun c => if c = '\n' then ['\r', '\n'] else [c]

theorem withReturns_of_not_mem {text : List Char} (h : '\n' ∉ text) : withReturns text = text := by
  have hself : ∀ c ∈ text, (if c = '\n' then ['\r', '\n'] else [c]) = [c] := by
    intro c hc
    exact if_neg fun (heq : c = '\n') => h (heq ▸ hc)
  rw [withReturns, List.flatMap_congr hself, List.flatMap_singleton']

/-- A first line and its end. -/
theorem withReturns_append_cons {line : List Char} (h : '\n' ∉ line) (rest : List Char) :
    withReturns (line ++ '\n' :: rest) = (line ++ ['\r']) ++ '\n' :: withReturns rest := by
  have hline : withReturns (line ++ '\n' :: rest) = withReturns line ++ withReturns ('\n' :: rest) :=
    List.flatMap_append
  have hend : withReturns ('\n' :: rest) = '\r' :: '\n' :: withReturns rest := rfl
  rw [hline, hend, withReturns_of_not_mem h, List.append_assoc, List.singleton_append]

/-- The lines are the same without the carriage returns, unless there were others. -/
theorem lines_withReturns {text : List Char} (h : '\r' ∉ text) : lines (withReturns text) = lines text := by
  induction text using separated_induction '\n' with
  | last text htext => rw [withReturns_of_not_mem htext]
  | piece line rest hline ih =>
    rw [List.mem_append, List.mem_cons, not_or, not_or] at h
    obtain ⟨hreturn, -, hrest⟩ := h
    have hfeed : '\n' ∉ line ++ ['\r'] := by
      rw [List.mem_append, List.mem_singleton, not_or]
      exact ⟨hline, by decide⟩
    have hlast : line.getLast? ≠ some '\r' := fun hlast => hreturn (List.mem_of_getLast? hlast)
    -- the first line is the same, whichever way it is ended
    have hfirst : stripLineEnd (line ++ ['\r'] ++ ['\n']) = stripLineEnd (line ++ ['\n']) := by
      rw [stripLineEnd, stripLineEnd, if_pos List.getLast?_concat, if_pos List.getLast?_concat,
        List.dropLast_concat, List.dropLast_concat, stripLast_concat, stripLast_of_ne hlast]
    have hmore : (terminated '\n' (withReturns rest)).map stripLineEnd =
        (terminated '\n' rest).map stripLineEnd := ih hrest
    rw [withReturns_append_cons hline, lines, lines, terminated_append_cons hfeed,
      terminated_append_cons hline, List.map_cons, List.map_cons, hfirst, hmore]

/-! ## Texts -/

/-- **A text is counted in parts.** If the first part is empty or ends with a line feed, the tally of the
text is that of the first part and that of the lines of the second one, scanned from what the first one
leaves open: the tallies of both, if that is nothing. And if a text holds no carriage return, one before
each line feed changes nothing. -/
theorem countText_in_parts (cs : List Construct) :
    (∀ front back : List Char, front = [] ∨ front.getLast? = some '\n' →
      countText cs (front ++ back) =
          countText cs front + countLines cs (stateAfter cs none (lines front)) (lines back) ∧
        (stateAfter cs none (lines front) = none →
          countText cs (front ++ back) = countText cs front + countText cs back)) ∧
    ∀ text : List Char, '\r' ∉ text → countText cs (withReturns text) = countText cs text := by
  refine ⟨fun front back h => ?_, fun text h => ?_⟩
  · have hparts : countText cs (front ++ back) =
        countText cs front + countLines cs (stateAfter cs none (lines front)) (lines back) := by
      rw [countText, lines_append h, countLines_append]
      rfl
    refine ⟨hparts, fun hnone => ?_⟩
    rw [hparts, hnone]
    rfl
  · rw [countText, lines_withReturns h]
    rfl

/-- A comment that goes on in the second part, one that is closed before it, and lines without carriage
returns. -/
theorem countText_in_parts_comment :
    let cs : List Construct := [.blockComment ['/', '*'] ['*', '/']]
    ((['/', '*', '\n'] = [] ∨ ['/', '*', '\n'].getLast? = some '\n') ∧
      countText cs (['/', '*', '\n'] ++ ['x']) =
        countText cs ['/', '*', '\n'] + countLines cs (some ⟨.blockComment, 0⟩) [['x']]) ∧
    ((['*', '/', '\n'] = [] ∨ ['*', '/', '\n'].getLast? = some '\n') ∧
      stateAfter cs none (lines ['*', '/', '\n']) = none ∧
      countText cs (['*', '/', '\n'] ++ ['x']) = countText cs ['*', '/', '\n'] + countText cs ['x']) ∧
    '\r' ∉ ['/', '*', '\n', 'x'] ∧
      countText cs ['/', '*', '\r', '\n', 'x'] = countText cs ['/', '*', '\n', 'x'] := by
  intro cs
  have hopens : stateAfter cs none (lines ['/', '*', '\n']) = some ⟨.blockComment, 0⟩ := by
    show (classify cs none ['/', '*']).2 = some ⟨.blockComment, 0⟩
    rw [classify_eq_lexer (by simp)]
    decide
  have hnone : stateAfter cs none (lines ['*', '/', '\n']) = none := by
    show (classify cs none ['*', '/']).2 = none
    rw [classify_eq_lexer (by simp)]
    decide
  obtain ⟨hparts, hreturns⟩ := countText_in_parts cs
  have hfront : ['/', '*', '\n'] = [] ∨ ['/', '*', '\n'].getLast? = some '\n' := by decide
  have hclosed : ['*', '/', '\n'] = [] ∨ ['*', '/', '\n'].getLast? = some '\n' := by decide
  have htext : '\r' ∉ ['/', '*', '\n', 'x'] := by decide
  refine ⟨⟨hfront, ?_⟩, ⟨hclosed, hnone, ?_⟩, htext, hreturns _ htext⟩
  · have hcount := (hparts ['/', '*', '\n'] ['x'] hfront).1
    rw [hopens] at hcount
    exact hcount
  · exact (hparts ['*', '/', '\n'] ['x'] hclosed).2 hnone

end LineCensus
