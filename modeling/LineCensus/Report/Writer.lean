/-!
# `Report.Writer` — writing all of something

## Contents

* `Writer` — what takes elements, such as bytes, a part at a time;
* `Written` — how far writing came;
* `Writer.writeAll` — offers what is left until nothing is, or until a call fails;
* `Writer.deliver` — writes all and flushes.
-/

namespace LineCensus

/-- What takes elements a part at a time. A call that is interrupted is made again, and counts as one
with the call that follows. -/
structure Writer (α σ ε : Type) where
  /-- The answer to an offer is how many elements were taken, from the first on and no more than there are. -/
  write : σ → List α → σ × Except ε Nat
  flush : σ → σ × Except ε Unit

/-- Why writing ended early. -/
inductive WriteFault (ε : Type) where
  | refused (fault : ε)
  /-- A call took nothing of what it was offered. -/
  | stalled
deriving DecidableEq, Repr

/-- How far writing came: the state of the writer, what it took, and the end. -/
structure Written (α σ ε : Type) where
  state : σ
  taken : List α
  answer : Except ε Unit

namespace Writer

variable {α σ ε : Type}

/-- Offers what is left until nothing is, or until a call fails. -/
def writeAll (w : Writer α σ ε) : σ → List α → Written α σ (WriteFault ε)
  | s, [] => ⟨s, [], .ok ()⟩
  | s, a :: rest =>
    match w.write s (a :: rest) with
    | (s', .error fault) => ⟨s', [], .error (.refused fault)⟩
    | (s', .ok 0) => ⟨s', [], .error .stalled⟩
    | (s', .ok (n + 1)) =>
      let later := writeAll w s' (rest.drop n)
      { later with taken := a :: rest.take n ++ later.taken }
termination_by _ offered => offered.length
decreasing_by simp only [List.length_cons, List.length_drop]; omega

/-- Writes all and flushes. -/
def deliver (w : Writer α σ ε) (s : σ) (all : List α) : Written α σ (WriteFault ε) :=
  let written := w.writeAll s all
  match written.answer with
  | .error _ => written
  | .ok () =>
    match w.flush written.state with
    | (s', .ok ()) => { written with state := s' }
    | (s', .error fault) => { written with state := s', answer := .error (.refused fault) }

end Writer

end LineCensus
