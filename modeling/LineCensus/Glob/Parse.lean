import LineCensus.Glob

/-!
# `Glob.Parse` — reading patterns

`?` and `*` are wild within a step, `**` across steps where it makes up a whole step, `[…]` is a
class, `{…,…}` a choice, and a backslash takes the next character literally.

## Contents

* `Glob.Fault` — why a pattern is malformed;
* `readClass` — the ranges of a class up to its closing bracket;
* `Reading` — the tokens read, with the choices that are open;
* `Glob.parse` — the pattern of a text.
-/

namespace LineCensus.Glob

/-- Why a pattern is malformed. -/
inductive Fault where
  | unclosedClass
  | reversedRange (low high : Char)
  | unopenedChoice
  | unclosedChoice
  | danglingEscape
deriving DecidableEq, Repr

/-- The text of the fault. -/
def Fault.message : Fault → String
  | .unclosedClass => "unclosed character class; missing ']'"
  | .reversedRange low high =>
    "invalid range; '" ++ String.singleton low ++ "' > '" ++ String.singleton high ++ "'"
  | .unopenedChoice =>
    "unopened alternate group; missing '\x7b' (maybe escape '\x7d' with '[\x7d]'?)"
  | .unclosedChoice =>
    "unclosed alternate group; missing '\x7d' (maybe escape '\x7b' with '[\x7b]'?)"
  | .danglingEscape => "dangling '\\'"

/-! ## Classes -/

/-- The ranges with the end of the last one replaced. -/
def widenLast (ranges : List (Char × Char)) (c : Char) : Except Fault (List (Char × Char)) :=
  match ranges.getLast? with
  | none => .ok [(c, c)]
  | some (low, _) =>
    if c < low then .error (.reversedRange low c) else .ok (ranges.dropLast ++ [(low, c)])

/-- Reads a class behind its first character. `pending` tells that a hyphen has been read that may
join the last range to what comes. The answer is none if the class does not end. -/
def readRanges (ranges : List (Char × Char)) (pending : Bool) :
    List Char → Except Fault (Option (List (Char × Char) × List Char))
  | [] => .ok none
  | c :: s =>
    if c = ']' then .ok (some (if pending then ranges ++ [('-', '-')] else ranges, s))
    else if pending then
      match widenLast ranges c with
      | .error fault => .error fault
      | .ok ranges => readRanges ranges false s
    else if c = '-' then readRanges ranges true s
    else readRanges (ranges ++ [(c, c)]) false s

theorem length_of_readRanges {ranges found : List (Char × Char)} {pending : Bool}
    {s rest : List Char} (h : readRanges ranges pending s = .ok (some (found, rest))) :
    rest.length < s.length := by
  induction s generalizing ranges pending with
  | nil => simp [readRanges] at h
  | cons c s ih =>
    unfold readRanges at h
    split at h
    · simp only [Except.ok.injEq, Option.some.injEq, Prod.mk.injEq] at h
      simp [h.2]
    · split at h
      · split at h
        · simp at h
        · exact Nat.lt_succ_of_lt (ih h)
      · split at h
        · exact Nat.lt_succ_of_lt (ih h)
        · exact Nat.lt_succ_of_lt (ih h)

/-- The first character of a class is literal, also a bracket or a hyphen. -/
def readMembers : List Char → Except Fault (Option (List (Char × Char) × List Char))
  | [] => .ok none
  | c :: s => readRanges [(c, c)] false s

/-- Reads a class behind its opening bracket: whether it is negated, its ranges, and the rest. -/
def readClass : List Char → Except Fault (Option (Bool × List (Char × Char) × List Char))
  | [] => .ok none
  | c :: s =>
    if c = '!' ∨ c = '^' then (readMembers s).map (Option.map fun r => (true, r))
    else (readMembers (c :: s)).map (Option.map fun r => (false, r))

theorem length_of_readMembers {found : List (Char × Char)} {s rest : List Char}
    (h : readMembers s = .ok (some (found, rest))) : rest.length < s.length := by
  cases s with
  | nil => simp [readMembers] at h
  | cons c s => exact Nat.lt_succ_of_lt (length_of_readRanges h)

theorem map_eq_some {α β γ : Type} {e : Except α (Option β)} {f : β → γ} {c : γ}
    (h : e.map (Option.map f) = .ok (some c)) : ∃ b, e = .ok (some b) ∧ f b = c := by
  cases e with
  | error a => simp [Except.map] at h
  | ok o =>
    cases o with
    | none => simp [Except.map] at h
    | some b => simp [Except.map] at h; exact ⟨b, rfl, h⟩

/-- What follows a class is shorter than the text behind its opening bracket. -/
theorem length_of_readClass {negated : Bool} {found : List (Char × Char)} {s rest : List Char}
    (h : readClass s = .ok (some (negated, found, rest))) : rest.length < s.length := by
  cases s with
  | nil => simp [readClass] at h
  | cons c s =>
    simp only [readClass] at h
    split at h
    · obtain ⟨b, hb, h⟩ := map_eq_some h
      obtain ⟨-, rfl⟩ := Prod.mk.inj h
      exact Nat.lt_succ_of_lt (length_of_readMembers hb)
    · obtain ⟨b, hb, h⟩ := map_eq_some h
      obtain ⟨-, rfl⟩ := Prod.mk.inj h
      exact length_of_readMembers hb

/-! ## Tokens -/

/-- A choice that is not closed yet. -/
structure OpenChoice where
  /-- The tokens before the choice. -/
  before : List Token
  /-- The branches that are complete. -/
  branches : List (List Token)
deriving Repr

/-- What has been read of a pattern. -/
structure Reading where
  /-- The tokens of the branch that is being read. -/
  tokens : List Token := []
  /-- The open choices, innermost first. -/
  choices : List OpenChoice := []
  /-- The last character that has been read. -/
  last : Option Char := none
  /-- Whether brackets are literal, because a class did not end. -/
  bareBrackets : Bool := false
deriving Repr

namespace Reading

/-- One more token, which ends with the character. -/
def push (r : Reading) (t : Token) (c : Char) : Reading :=
  { r with tokens := r.tokens ++ [t], last := some c }

/-- Two stars side by side, which are worth one. -/
def pushStars (r : Reading) : Reading := (r.push .star '*').push .star '*'

/-- A double star in the place of the slash before it. -/
def replaceSlash (r : Reading) (t : Token) (c : Char) : Reading :=
  match r.tokens.getLast? with
  | some .leading => { r with last := some c }
  | some .trailing => { r with last := some c }
  | _ => { r with tokens := r.tokens.dropLast ++ [t], last := some c }

/-- Whether a double star may stand behind what has been read: at the start of a branch, or behind
a slash, and in a choice also behind a comma or an opening brace. -/
def atStep (r : Reading) : Bool :=
  r.last == some '/' || (!r.choices.isEmpty && (r.last == some ',' || r.last == some '\x7b'))

/-- A double star with the characters behind it; says also whether the first of these, a slash, is
part of it. A double star that is no step of its own is two stars. -/
def pushDoubleStar (r : Reading) (behind : List Char) : Reading × Bool :=
  if r.tokens.isEmpty then
    match behind with
    | [] => (r.push .leading '*', false)
    | c :: _ => if c = '/' then (r.push .leading '/', true) else (r.pushStars, false)
  else if r.atStep then
    match behind with
    | [] => (r.replaceSlash .trailing '*', false)
    | c :: _ =>
      if c = '/' then (r.replaceSlash .between '/', true)
      else if !r.choices.isEmpty && (c = ',' || c = '\x7d') then
        (r.replaceSlash .trailing '*', false)
      else (r.pushStars, false)
  else (r.pushStars, false)

/-- A choice opens. -/
def openChoice (r : Reading) : Reading :=
  { r with tokens := [], choices := ⟨r.tokens, []⟩ :: r.choices, last := some '\x7b' }

/-- A comma, which parts the branches of a choice and is literal elsewhere. -/
def comma (r : Reading) : Reading :=
  match r.choices with
  | [] => r.push (.literal ',') ','
  | c :: choices =>
    { r with
      tokens := []
      choices := { c with branches := c.branches ++ [r.tokens] } :: choices
      last := some ',' }

/-- A choice closes. -/
def closeChoice (r : Reading) : Except Fault Reading :=
  match r.choices with
  | [] => .error .unopenedChoice
  | c :: choices =>
    .ok { r with
      tokens := c.before ++ [.choice (c.branches ++ [r.tokens])]
      choices := choices
      last := some '\x7d' }

/-- The pattern, if no choice is open. -/
def finish (r : Reading) : Except Fault Glob :=
  if r.choices.isEmpty then .ok ⟨r.tokens⟩ else .error .unclosedChoice

/-- Reads on to the end. `lenient` tells that a class that does not end is a literal bracket. -/
def read (lenient : Bool) (r : Reading) (s : List Char) : Except Fault Glob :=
  match s with
  | [] => r.finish
  | '?' :: s => read lenient (r.push .any '?') s
  | '*' :: '*' :: s =>
    match r.pushDoubleStar s with
    | (r, true) => read lenient r s.tail
    | (r, false) => read lenient r s
  | '*' :: s => read lenient (r.push .star '*') s
  | '\x7b' :: s => read lenient r.openChoice s
  | '\x7d' :: s =>
    match r.closeChoice with
    | .error fault => .error fault
    | .ok r => read lenient r s
  | ',' :: s => read lenient r.comma s
  | ['\\'] => .error .danglingEscape
  | '\\' :: c :: s => read lenient (r.push (.literal c) c) s
  | '[' :: s =>
    if r.bareBrackets then read lenient (r.push (.literal '[') '[') s
    else
      match _h : readClass s with
      | .error fault => .error fault
      | .ok (some (negated, ranges, rest)) =>
        read lenient (r.push (.oneOf negated ranges) ']') rest
      | .ok none =>
        if lenient then
          read lenient { r.push (.literal '[') '[' with bareBrackets := true } s
        else .error .unclosedClass
  | c :: s => read lenient (r.push (.literal c) c) s
termination_by s.length
decreasing_by
  all_goals simp_wf
  all_goals try omega
  · have := length_of_readClass _h
    omega

end Reading

/-- The pattern of a text. With `lenient`, a class that does not end is a literal bracket. -/
def parse (lenient : Bool) (text : List Char) : Except Fault Glob := Reading.read lenient {} text

end LineCensus.Glob
