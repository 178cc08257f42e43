/-!
# `Position` — where a search within one line ends

## Contents

* `Position` — nothing found, found as the last thing on the line, or found with more to read;
* `Position.afterDelimiter` — the position for a delimiter that ends at an offset;
* `Position.resolve`, `Position.raw` — back to an offset, and the form as one integer.

Offsets count bytes of the UTF-8 form from the start of the line.
-/

namespace LineCensus

/-- The result of a search for a delimiter within one line. -/
inductive Position where
  /-- The delimiter does not occur. -/
  | notFound
  /-- The delimiter is the last thing on the line. -/
  | atLineEnd
  /-- Reading goes on at the offset. -/
  | resume (offset : Nat)
deriving DecidableEq, Repr

namespace Position

/-- The position for a delimiter that ends at `next` in a line of `lineLength` bytes. -/
def afterDelimiter (next lineLength : Nat) : Position :=
  if next ≥ lineLength then .atLineEnd else .resume next

/-- The offset just past the delimiter, if one was found. -/
def resolve (lineLength : Nat) : Position → Option Nat
  | .notFound => none
  | .atLineEnd => some lineLength
  | .resume offset => some offset

/-- The largest offset that the integer form can hold. -/
def rawLimit : Nat := Nat.pow 2 63 - 1

/-- The integer form: 0 for nothing found, -1 at the end of the line, else the offset, capped. -/
def raw : Position → Int
  | .notFound => 0
  | .atLineEnd => -1
  | .resume offset => (min offset rawLimit : Nat)

@[simp] theorem resolve_notFound {n : Nat} : resolve n .notFound = none := rfl

@[simp] theorem resolve_atLineEnd {n : Nat} : resolve n .atLineEnd = some n := rfl

@[simp] theorem resolve_resume {n p : Nat} : resolve n (.resume p) = some p := rfl

/-- A delimiter that ends within the line is found where it ends. -/
theorem resolve_afterDelimiter {next n : Nat} (h : next ≤ n) :
    (afterDelimiter next n).resolve n = some next := by
  unfold afterDelimiter
  split <;> simp; omega

theorem afterDelimiter_eq_resume {next n p : Nat} :
    afterDelimiter next n = .resume p ↔ next = p ∧ next < n := by
  unfold afterDelimiter
  split <;> simp <;> omega

theorem afterDelimiter_ne_notFound {next n : Nat} : afterDelimiter next n ≠ .notFound := by
  unfold afterDelimiter
  split <;> simp

end Position

end LineCensus
