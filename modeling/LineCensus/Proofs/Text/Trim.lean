import LineCensus.Text.Blank
import Mathlib.Data.List.TakeWhile

/-!
# `Proofs.Text.Trim` — a text without the white space around it

Trimming takes white space from both sides of a text until something else stands there. What is said here is
what others rely on: that white space put around a text does not matter, that a character which is no white
space holds the text before and behind it apart, and when nothing is left.

## Contents

* `WhiteSpace` — which characters are white space; `isBlankText_iff_whiteSpace`;
* `trimStart_append`, `trimEnd_append` — white space on one side;
* `trimStart_append_cons`, `trimEnd_append_cons` — a character that is no white space;
* `trim_append_cons`, `trim_surround`, `trim_trim`, `trim_eq_self`, `trim_eq_nil_iff` — both sides.
-/

namespace LineCensus.Text

variable {s t before after : List Char} {c : Char}

/-! ## White space -/

/-- White space is the property White_Space of the Unicode character database. -/
def WhiteSpace (c : Char) : Prop :=
  (0x09 ≤ c.toNat ∧ c.toNat ≤ 0x0D) ∨ (0x2000 ≤ c.toNat ∧ c.toNat ≤ 0x200A) ∨
    c.toNat ∈ [0x20, 0x85, 0xA0, 0x1680, 0x2028, 0x2029, 0x202F, 0x205F, 0x3000]

theorem isBlank_iff_whiteSpace : isBlank c = true ↔ WhiteSpace c := by
  rw [isBlank, Ranges.has_iff]
  simp only [blankRanges, WhiteSpace, List.mem_cons, List.not_mem_nil, or_false, exists_eq_or_imp,
    exists_eq_left]
  omega

instance : DecidablePred WhiteSpace := fun _ => decidable_of_iff _ isBlank_iff_whiteSpace

theorem isBlankText_iff : isBlankText s = true ↔ ∀ c ∈ s, isBlank c = true := List.all_eq_true

theorem isBlankText_iff_whiteSpace : isBlankText s = true ↔ ∀ c ∈ s, WhiteSpace c := by
  simp only [isBlankText_iff, isBlank_iff_whiteSpace]

theorem isBlankText_eq_all : isBlankText s = s.all fun c => decide (WhiteSpace c) := by
  rw [Bool.eq_iff_iff, isBlankText_iff_whiteSpace]
  simp only [List.all_eq_true, decide_eq_true_eq]

theorem isBlankText_reverse : isBlankText s.reverse = isBlankText s := by
  rw [isBlankText, isBlankText, List.all_reverse]

/-! ## One side -/

theorem trimStart_append (h : isBlankText before = true) : trimStart (before ++ s) = trimStart s :=
  List.dropWhile_append_of_pos (isBlankText_iff.mp h)

/-- What stands behind a character that is no white space stays. -/
theorem trimStart_append_cons (h : isBlank c = false) : trimStart (s ++ c :: t) = trimStart s ++ c :: t := by
  induction s with
  | nil => simp [trimStart, h]
  | cons b s ih =>
    cases hb : isBlank b with
    | true => simpa [trimStart, hb] using ih
    | false => simp [trimStart, hb]

theorem trimEnd_eq_reverse : trimEnd s = (trimStart s.reverse).reverse := rfl

theorem trimEnd_append (h : isBlankText after = true) : trimEnd (s ++ after) = trimEnd s := by
  rw [trimEnd_eq_reverse, List.reverse_append, trimStart_append (by rw [isBlankText_reverse, h]),
    trimEnd_eq_reverse]

/-- What stands before a character that is no white space stays. -/
theorem trimEnd_append_cons (h : isBlank c = false) : trimEnd (s ++ c :: t) = s ++ c :: trimEnd t := by
  rw [trimEnd_eq_reverse, List.reverse_append, List.reverse_cons, List.append_assoc, List.singleton_append,
    trimStart_append_cons h, List.reverse_append, trimEnd_eq_reverse]
  simp

/-- What trimming takes from the start is white space. -/
theorem exists_trimStart (s : List Char) : ∃ before, isBlankText before = true ∧ s = before ++ trimStart s :=
  ⟨s.takeWhile isBlank, List.all_takeWhile, List.takeWhile_append_dropWhile.symm⟩

/-- What trimming takes from the end is white space. -/
theorem exists_trimEnd (s : List Char) : ∃ after, isBlankText after = true ∧ s = trimEnd s ++ after := by
  obtain ⟨before, hblank, hs⟩ := exists_trimStart s.reverse
  refine ⟨before.reverse, by rw [isBlankText_reverse, hblank], ?_⟩
  rw [trimEnd_eq_reverse, ← List.reverse_append, ← hs, List.reverse_reverse]

theorem trimStart_eq_nil_iff : trimStart s = [] ↔ isBlankText s = true := by
  rw [trimStart, List.dropWhile_eq_nil_iff, isBlankText_iff]

/-! ## Both sides -/

/-- Nothing is left of white space, and of white space only. -/
theorem trim_eq_nil_iff : trim s = [] ↔ isBlankText s = true := by
  constructor
  · intro h
    obtain ⟨before, hbefore, hs⟩ := exists_trimStart s
    obtain ⟨after, hafter, hstart⟩ := exists_trimEnd (trimStart s)
    have hnil : trimEnd (trimStart s) = [] := h
    rw [hs, hstart, hnil]
    simp [hbefore, hafter]
  · intro h
    rw [trim, trimStart_eq_nil_iff.mpr h]
    rfl

/-- A character that is no white space holds the two sides apart. -/
theorem trim_append_cons (h : isBlank c = false) : trim (s ++ c :: t) = trimStart s ++ c :: trimEnd t := by
  rw [trim, trimStart_append_cons h, trimEnd_append_cons h]

/-- **White space around a text does not matter.** -/
theorem trim_surround (hbefore : isBlankText before = true) (hafter : isBlankText after = true) :
    trim (before ++ s ++ after) = trim s := by
  rw [trim, List.append_assoc, trimStart_append hbefore]
  cases hs : isBlankText s with
  | true =>
    have hblank : isBlankText (s ++ after) = true := by simp [hs, hafter]
    rw [trimStart_eq_nil_iff.mpr hblank, trim_eq_nil_iff.mpr hs]
    rfl
  | false =>
    -- something in the text is no white space, and holds the two sides apart
    obtain ⟨c, hc, hnot⟩ : ∃ c ∈ s, isBlank c = false := by
      simpa [isBlankText, List.all_eq_false] using hs
    obtain ⟨front, back, rfl⟩ := List.mem_iff_append.mp hc
    rw [List.append_assoc, List.cons_append, trimStart_append_cons hnot, trimEnd_append_cons hnot,
      trimEnd_append hafter, trim_append_cons hnot]

theorem trim_trimStart : trim (trimStart s) = trim s := by
  obtain ⟨before, hbefore, hs⟩ := exists_trimStart s
  have hsurround := trim_surround (s := trimStart s) hbefore isBlankText_nil
  rw [List.append_nil, ← hs] at hsurround
  exact hsurround.symm

theorem trim_trimEnd : trim (trimEnd s) = trim s := by
  obtain ⟨after, hafter, hs⟩ := exists_trimEnd s
  have hsurround := trim_surround (s := trimEnd s) isBlankText_nil hafter
  rw [List.nil_append, ← hs] at hsurround
  exact hsurround.symm

/-- Nothing is left to be trimmed. -/
theorem trim_trim : trim (trim s) = trim s := by
  show trim (trimEnd (trimStart s)) = trim s
  rw [trim_trimEnd, trim_trimStart]

theorem trimStart_trim : trimStart (trim s) = trim s := by
  show trimStart (trimEnd (trimStart s)) = trimEnd (trimStart s)
  cases hstart : trimStart s with
  | nil => rfl
  | cons c t =>
    -- the first character left is no white space, and so it stays the first one
    have hfirst : isBlank c = false := by
      have hhead := List.head?_dropWhile_not isBlank s
      rw [← trimStart, hstart] at hhead
      simpa using hhead
    have hend : trimEnd (c :: t) = c :: trimEnd t := trimEnd_append_cons (s := []) hfirst
    rw [hend]
    exact trimStart_append_cons (s := []) hfirst

/-- A text without white space is left as it is. -/
theorem trim_eq_self (h : ∀ c ∈ s, isBlank c = false) : trim s = s := by
  have hstart : trimStart s = s := by
    rw [trimStart, List.dropWhile_eq_self_iff]
    intro hlength
    rw [h _ (List.getElem_mem hlength)]
    exact Bool.false_ne_true
  have hend : trimStart s.reverse = s.reverse := by
    rw [trimStart, List.dropWhile_eq_self_iff]
    intro hlength
    rw [h _ (List.mem_reverse.mp (List.getElem_mem hlength))]
    exact Bool.false_ne_true
  rw [trim, hstart, trimEnd_eq_reverse, hend, List.reverse_reverse]

/-- Trimming brings in no character. -/
theorem mem_of_mem_trim (h : c ∈ trim s) : c ∈ s := by
  obtain ⟨before, -, hs⟩ := exists_trimStart s
  obtain ⟨after, -, hstart⟩ := exists_trimEnd (trimStart s)
  rw [hs, hstart]
  exact List.mem_append_right before (List.mem_append_left after h)

end LineCensus.Text
