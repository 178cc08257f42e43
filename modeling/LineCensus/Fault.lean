/-!
# `Fault` — what could go wrong while a line is read

Searching and cutting by byte offsets is full of partial steps. Each is written as a checked step
that names its fault; `Checked.value` takes the result of a computation that is known to have none.
-/

namespace LineCensus

/-- A step that has no result. -/
inductive Fault where
  /-- A text was cut past its end or inside a character. -/
  | cut
  /-- A delimiter was longer than the text before its end. -/
  | offset
  /-- There is no construct with this index. -/
  | index
  /-- A round left as much text as it was given. -/
  | progress
deriving DecidableEq, Repr

/-- The result of steps that may have a fault. -/
abbrev Checked (α : Type) := Except Fault α

namespace Checked

variable {α : Type}

/-- The result of a computation without fault. -/
def value (x : Checked α) (h : ∃ a, x = .ok a) : α :=
  match x, h with
  | .ok a, _ => a
  | .error _, h => absurd h (by simp)

theorem eq_ok_value {x : Checked α} (h : ∃ a, x = .ok a) : x = .ok (x.value h) := by
  obtain ⟨a, rfl⟩ := h
  rfl

theorem value_eq {x : Checked α} {a : α} (h : x = .ok a) : x.value ⟨a, h⟩ = a := by
  subst h
  rfl

end Checked

end LineCensus
