import LineCensus.Census

/-!
# `Handover` — a walk and the counting of its files, side by side

While files are counted the walk goes on. It sends each file over a channel that holds so many of them, and
waits while the channel is full. If the walk fails, it tells so over a second channel; only then does it let
go of the first. The counting takes files until the first channel is empty and nobody is left who could send
over it, and then looks at the second one, once and without waiting. When strict it need not go on after a
file that fails. Either side may be ahead at any time, so a run is any sequence of steps of both.

## Contents

* `capacity`, `Walker`, `Counting`, `State` — the two sides, and what is on its way between them;
* `Step` — one step of one side;
* `State.start`, `State.answer?` — before the first step, and after the last.
-/

namespace LineCensus.Handover

/-- How many files the channel holds. -/
def capacity : Nat := 1024

/-- Where the walk is. -/
inductive Walker where
  /-- It has files to send, and may fail after the last of them. -/
  | sending (rest : List Found) (failure : Option Failure)
  /-- It has told of its failure, if there is one, and still holds on to the channel of files. -/
  | leaving
  /-- It has let go of the channel. -/
  | gone

/-- Where the counting is. -/
inductive Counting where
  | receiving
  /-- There are no more files to come, and all are counted. -/
  | drained
  | answered (answer : Except Failure Census)
  /-- It has given up before the last file, because one failed. -/
  | stopped (failure : Failure)

/-- The two sides, and what is on its way between them. -/
structure State where
  walker : Walker
  /-- The files in the channel, the oldest first. -/
  waiting : List Found := []
  /-- The failures in the second channel. -/
  told : List Failure := []
  /-- The files that have been received and are being counted. -/
  inHand : List Found := []
  counted : List Found := []
  counting : Counting := .receiving

/-- One step of one side. -/
inductive Step (strict : Bool) (c : Catalog) (s : State) : State → Prop where
  /-- The walk sends a file, if there is room for it. -/
  | send {f : Found} {rest : List Found} {failure : Option Failure} :
      s.walker = .sending (f :: rest) failure → s.waiting.length < capacity → s.counting = .receiving →
      Step strict c s { s with walker := .sending rest failure, waiting := s.waiting ++ [f] }
  /-- The walk ends early: nobody receives files any more. -/
  | quit {f : Found} {rest : List Found} {failure : Option Failure} :
      s.walker = .sending (f :: rest) failure → s.counting ≠ .receiving →
      Step strict c s { s with walker := .leaving }
  /-- The walk has sent all files, and tells of its failure, if there is one. -/
  | finish {failure : Option Failure} :
      s.walker = .sending [] failure →
      Step strict c s { s with walker := .leaving, told := s.told ++ failure.toList }
  /-- The walk lets go of the channel of files. -/
  | leave :
      s.walker = .leaving →
      Step strict c s { s with walker := .gone }
  | receive {f : Found} {rest : List Found} :
      s.counting = .receiving → s.waiting = f :: rest →
      Step strict c s { s with waiting := rest, inHand := s.inHand ++ [f] }
  /-- Any of the files in hand may be the next that is done. -/
  | count {f : Found} {before after : List Found} :
      s.counting = .receiving → s.inHand = before ++ f :: after →
      Step strict c s { s with inHand := before ++ after, counted := s.counted ++ [f] }
  /-- No file is left, and nobody could send one. -/
  | drain :
      s.counting = .receiving → s.walker = .gone → s.waiting = [] → s.inHand = [] →
      Step strict c s { s with counting := .drained }
  /-- The look at the second channel. When strict, it is taken only if no file failed. -/
  | look :
      s.counting = .drained → (strict = true → ∀ f ∈ s.counted, ∀ failure, f.count c ≠ .error failure) →
      Step strict c s { s with
        told := s.told.tail, counting := .answered (Census.collect strict c s.counted s.told.head?) }
  /-- When strict, one of the files that failed makes the answer. -/
  | refuse {f : Found} {failure : Failure} :
      s.counting = .drained → strict = true → f ∈ s.counted → f.count c = .error failure →
      Step strict c s { s with counting := .answered (.error failure) }
  /-- When strict, a file that failed may end the counting at once. -/
  | stop {f : Found} {failure : Failure} :
      s.counting = .receiving → strict = true → f ∈ s.counted → f.count c = .error failure →
      Step strict c s { s with counting := .stopped failure }

namespace State

/-- A walk that is to send some files, and to fail or not, before its first step. -/
def start (files : List Found) (failure : Option Failure) : State where
  walker := .sending files failure

/-- The answer, once there is one. -/
def answer? (s : State) : Option (Except Failure Census) :=
  match s.counting with
  | .receiving | .drained => none
  | .answered answer => some answer
  | .stopped failure => some (.error failure)

end State

end LineCensus.Handover
