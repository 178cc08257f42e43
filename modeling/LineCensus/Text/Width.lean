import LineCensus.Text.Extender
import LineCensus.Text.Width.Table

/-!
# `Text.Width` — the columns that a text takes on a terminal

## Contents

* `charWidth` — a character on its own: none for one that attaches to its neighbour or is never
  shown, two for a wide one, one for any other, controls included;
* `displayWidth` — a line: an emoji sequence (a base with its modifier or variation selector, or
  several joined by U+200D) takes two columns in all, a carriage return with its line feed one.
-/

namespace LineCensus.Text

/-- The columns of a character that stands alone. -/
def charWidth (c : Char) : Nat :=
  if c.toNat < 0xA1 then 1
  else if isExtender c || hiddenRanges.has c then 0
  else if wideRanges.has c then 2
  else 1

/-- Whether the character is one of the five skin tone modifiers. -/
def isSkinTone (c : Char) : Bool := 0x1F3FB ≤ c.toNat && c.toNat ≤ 0x1F3FF

/-- The rest of the text `s` once `c` and what follows it are taken as one emoji: with a variation
selector, with that and an enclosing keycap, with a skin tone, or on its own. -/
def emojiAfter? (c : Char) (s : List Char) : Option (List Char) :=
  match s with
  | '\uFE0F' :: rest =>
    if rest.head? = some '\u20E3' && (c.isDigit || c = '#' || c = '*') then some rest.tail
    else if emojiRanges.has c then some rest
    else none
  | '\uFE0E' :: _ => none
  | d :: rest =>
    if isSkinTone d && emojiBaseRanges.has c then some rest
    else if emojiPresentationRanges.has c then some s
    else none
  | [] => if emojiPresentationRanges.has c then some s else none

theorem emojiAfter?_length {c : Char} {s rest : List Char} (h : emojiAfter? c s = some rest) :
    rest.length ≤ s.length := by
  unfold emojiAfter? at h
  split at h <;> repeat' split at h
  all_goals simp only [Option.some.injEq, reduceCtorEq] at h
  all_goals subst h; simp; try omega

/-- The rest of the text after an emoji that comes first in it. -/
def emoji? : List Char → Option (List Char)
  | [] => none
  | c :: s => emojiAfter? c s

theorem emoji?_length {s rest : List Char} (h : emoji? s = some rest) :
    rest.length < s.length := by
  cases s with
  | nil => simp [emoji?] at h
  | cons c s => have := emojiAfter?_length h; simp; omega

/-- The rest of the text after the emoji that are joined on by U+200D. -/
def joinedEmoji (s : List Char) : List Char :=
  match s with
  | '\u200D' :: t =>
    match _h : emoji? t with
    | some rest => joinedEmoji rest
    | none => s
  | _ => s
termination_by s.length
decreasing_by have := emoji?_length _h; simp; omega

/-- Joining takes nothing back. -/
theorem joinedEmoji_length (s : List Char) : (joinedEmoji s).length ≤ s.length := by
  fun_induction joinedEmoji s with
  | case1 t rest h ih => have := emoji?_length h; simp; omega
  | case2 => simp
  | case3 => simp

/-- The columns of what comes first in a line, and the rest of the line: an emoji with those joined on,
a line end, or one character. -/
def firstWidth (c : Char) (s : List Char) : Nat × List Char :=
  match emojiAfter? c s with
  | some rest => (2, joinedEmoji rest)
  | none =>
    match c, s with
    | '\r', '\n' :: rest => (1, rest)
    | c, '\uFE0E' :: rest =>
      (if emojiPresentationRanges.has c then 1 else charWidth c, rest)
    | c, rest => (charWidth c, rest)

theorem firstWidth_length (c : Char) (s : List Char) : (firstWidth c s).2.length ≤ s.length := by
  unfold firstWidth
  split
  · next rest h =>
    exact Nat.le_trans (joinedEmoji_length rest) (emojiAfter?_length h)
  · split
    · exact Nat.le_succ _
    · exact Nat.le_succ _
    · exact Nat.le_refl _

/-- The columns of a line. -/
def displayWidth : List Char → Nat
  | [] => 0
  | c :: s =>
    let first := firstWidth c s
    first.1 + displayWidth first.2
termination_by s => s.length
decreasing_by
  have := firstWidth_length c s
  simp only [List.length_cons]
  omega

end LineCensus.Text
