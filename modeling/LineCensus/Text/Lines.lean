/-!
# `Text.Lines` — where lines end

A line feed ends a line; what follows the last line feed is a line of its own unless it is empty.

## Contents

* `terminated` — a sequence cut after each separator;
* `stripLineEnd` — a line without its line feed, and without the carriage return before that;
* `lines` — the lines of a text. A carriage return that no line feed follows stays.
-/

namespace LineCensus.Text

/-- The sequence cut after each occurrence of the separator. No piece is empty, and joined they are
the sequence again. -/
def terminated {α : Type} [BEq α] (sep : α) : List α → List (List α)
  | [] => []
  | a :: s =>
    if a == sep then [a] :: terminated sep s
    else
      match terminated sep s with
      | [] => [[a]]
      | piece :: rest => (a :: piece) :: rest

/-- The text without the character, if it ends with it. -/
def stripLast (c : Char) (s : List Char) : List Char :=
  if s.getLast? = some c then s.dropLast else s

/-- The line without its line feed and the carriage return before it. -/
def stripLineEnd (line : List Char) : List Char :=
  if line.getLast? = some '\n' then stripLast '\r' line.dropLast else line

/-- The lines of a text. -/
def lines (text : List Char) : List (List Char) := (terminated '\n' text).map stripLineEnd

@[simp] theorem terminated_nil {α : Type} [BEq α] {sep : α} : terminated sep [] = [] := rfl

end LineCensus.Text
