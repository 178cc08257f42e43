import LineCensus.CommandLine.Value
import LineCensus.Proofs.Json.Number
import Mathlib.Algebra.Group.Nat.Defs

/-!
# `Proofs.CommandLine.Counts` — which texts are counts

A count is read digit by digit, and is refused at the first digit that makes it take more than 64 bits. Said
here is which texts are taken, and as which number, without the order in which the digits are read: a plus sign
or none, digits to base ten, any number of zeros among them in front, and a value that fits
(`parseCount_eq_ok_iff`).

That nothing is lost by stopping early rests on one fact: more digits never make a number less
(`le_ofDigitChars`). So a number that is too large at some digit stays so, however long the text is, and no
sum is ever taken that would have to be cut to 64 bits.

## Contents

* `Spells` — the texts of a number;
* `parseDigits_eq_ok_iff`, `parseCount_eq_ok_iff`, `parseBounded_eq_ok_iff` — digits, counts, and counts within
  bounds;
* `parse_takes_spelled_counts` — the two kinds of counts that options take.
-/

namespace LineCensus.CommandLine

open Json (IsDigits)

/-! ## Texts of numbers -/

/-- A text of a number to base ten: perhaps a plus sign, and one ASCII digit or more. -/
def Spells (text : List Char) (n : Nat) : Prop :=
  ∃ sign digits, text = sign ++ digits ∧ (sign = [] ∨ sign = ['+']) ∧ IsDigits digits ∧
    Nat.ofDigitChars 10 digits 0 = n

variable {text digits : List Char} {n value : Nat}

theorem not_isDigits_plus (rest : List Char) : ¬ IsDigits ('+' :: rest) := by
  intro h
  exact absurd (h.2 '+' List.mem_cons_self) (by decide)

/-- Without a plus sign in front all of the text are digits. -/
theorem spells_iff_of_ne_plus (h : ∀ rest, text ≠ '+' :: rest) :
    Spells text n ↔ IsDigits text ∧ Nat.ofDigitChars 10 text 0 = n := by
  constructor
  · rintro ⟨sign, digits, rfl, hsign, hdigits, hn⟩
    rcases hsign with rfl | rfl
    · exact ⟨hdigits, hn⟩
    · exact absurd rfl (h digits)
  · rintro ⟨hdigits, hn⟩
    exact ⟨[], text, rfl, .inl rfl, hdigits, hn⟩

/-- With one the digits are what stands behind it. -/
theorem spells_plus_iff : Spells ('+' :: digits) n ↔ IsDigits digits ∧ Nat.ofDigitChars 10 digits 0 = n := by
  constructor
  · rintro ⟨sign, digits', htext, hsign, hdigits, hn⟩
    rcases hsign with rfl | rfl
    · obtain rfl : '+' :: digits = digits' := htext
      exact absurd hdigits (not_isDigits_plus digits)
    · obtain rfl : digits = digits' := (List.cons.inj htext).2
      exact ⟨hdigits, hn⟩
  · rintro ⟨hdigits, hn⟩
    exact ⟨['+'], digits, rfl, .inr rfl, hdigits, hn⟩

/-! ## Digit by digit -/

/-- More digits never make a number less. -/
theorem le_ofDigitChars (digits : List Char) (value : Nat) : value ≤ Nat.ofDigitChars 10 digits value := by
  induction digits generalizing value with
  | nil => exact Nat.le_of_eq Nat.ofDigitChars_nil.symm
  | cons c digits ih =>
    rw [Nat.ofDigitChars_cons]
    have hnext := ih (10 * value + (c.toNat - '0'.toNat))
    omega

/-- **Digits are taken as the number that they spell**, behind digits of a value that fits, if the whole
fits. -/
theorem parseDigits_eq_ok_iff (hvalue : value < countBound) :
    parseDigits value digits = .ok n ↔
      (∀ c ∈ digits, c.isDigit = true) ∧ Nat.ofDigitChars 10 digits value = n ∧ n < countBound := by
  induction digits generalizing value with
  | nil =>
    rw [parseDigits, Nat.ofDigitChars_nil, Except.ok.injEq]
    constructor
    · rintro rfl
      exact ⟨by simp, rfl, hvalue⟩
    · rintro ⟨-, rfl, -⟩
      rfl
  | cons c digits ih =>
    rw [parseDigits, Nat.ofDigitChars_cons, Nat.mul_comm 10 value, List.forall_mem_cons]
    by_cases hc : c.isDigit = true
    · simp only [hc, if_true, true_and]
      by_cases hnext : value * 10 + (c.toNat - '0'.toNat) < countBound
      · rw [if_pos hnext, ih hnext]
      · -- too large at this digit, and so at all that follow
        rw [if_neg hnext]
        refine iff_of_false (by simp) ?_
        rintro ⟨-, rfl, hlt⟩
        exact hnext (Nat.lt_of_le_of_lt (le_ofDigitChars digits _) hlt)
    · rw [if_neg hc]
      exact iff_of_false (by simp) fun h => hc h.1.1

/-- **A count is taken exactly if its text spells it and it fits.** -/
theorem parseCount_eq_ok_iff : parseCount text = .ok n ↔ Spells text n ∧ n < countBound := by
  have hzero : 0 < countBound := by decide
  unfold parseCount
  split
  · -- nothing at all
    refine iff_of_false (by simp) ?_
    rintro ⟨hspells, -⟩
    rw [spells_iff_of_ne_plus (by simp)] at hspells
    exact hspells.1.1 rfl
  · -- a sign alone
    refine iff_of_false (by simp) ?_
    rintro ⟨hspells, -⟩
    exact (spells_plus_iff.mp hspells).1.1 rfl
  · next digits hne =>
    have hdigits : digits ≠ [] := fun hnil => hne hnil
    rw [parseDigits_eq_ok_iff hzero, spells_plus_iff, IsDigits]
    simp only [hdigits, ne_eq, not_false_eq_true, true_and, and_assoc]
  · next hnil hsign hplus =>
    have hne : ∀ rest, text ≠ '+' :: rest := fun rest heq => hplus rest heq
    have htext : text ≠ [] := fun heq => hnil heq
    rw [parseDigits_eq_ok_iff hzero, spells_iff_of_ne_plus hne, IsDigits]
    simp only [htext, ne_eq, not_false_eq_true, true_and, and_assoc]

/-! ## Within bounds -/

variable {low : Nat} {high : Option Nat}

/-- **A count within bounds**, with white space around it or without. -/
theorem parseBounded_eq_ok_iff :
    parseBounded low high text = .ok n ↔
      Spells (Text.trim text) n ∧ n < countBound ∧ low ≤ n ∧ ∀ h ∈ high, n ≤ h := by
  rw [← and_assoc, ← parseCount_eq_ok_iff]
  unfold parseBounded
  cases hcount : parseCount (Text.trim text) with
  | error e => simp
  | ok m =>
    simp only [Except.ok.injEq]
    by_cases hlow : m < low
    · rw [if_pos hlow]
      refine iff_of_false (by simp) ?_
      rintro ⟨rfl, hle, -⟩
      omega
    · rw [if_neg hlow]
      cases high with
      | none =>
        simp only [Except.ok.injEq]
        constructor
        · rintro rfl
          exact ⟨rfl, by omega, by simp⟩
        · exact And.left
      | some h =>
        simp only [Option.mem_def, Option.some.injEq, forall_eq']
        by_cases hhigh : m > h
        · rw [if_pos hhigh]
          refine iff_of_false (by simp) ?_
          rintro ⟨rfl, -, hle⟩
          omega
        · rw [if_neg hhigh, Except.ok.injEq]
          constructor
          · rintro rfl
            exact ⟨rfl, by omega, by omega⟩
          · exact And.left

/-- A count is refused exactly if its text spells none within the bounds. -/
theorem parseBounded_eq_error_iff :
    (∃ message, parseBounded low high text = .error message) ↔
      ∀ n, Spells (Text.trim text) n → ¬ (n < countBound ∧ low ≤ n ∧ ∀ h ∈ high, n ≤ h) := by
  constructor
  · rintro ⟨message, herror⟩ n hspells hwithin
    have hok : parseBounded low high text = .ok n := parseBounded_eq_ok_iff.mpr ⟨hspells, hwithin⟩
    rw [herror] at hok
    cases hok
  · intro h
    cases hparse : parseBounded low high text with
    | error message => exact ⟨message, rfl⟩
    | ok n =>
      obtain ⟨hspells, hwithin⟩ := parseBounded_eq_ok_iff.mp hparse
      exact absurd hwithin (h n hspells)

/-- **Options take the counts that their texts spell**, white space around them set aside: a count of at least
one if it is below `2 ^ 64`, a number of jobs if it is at most 512. Every other text is refused, one that spells
a larger number among them, with however many digits. -/
theorem parse_takes_spelled_counts (text : List Char) :
    (∀ n, parsePositive text = .ok n ↔ Spells (Text.trim text) n ∧ 1 ≤ n ∧ n ≤ 2 ^ 64 - 1) ∧
    (∀ n, parseJobs text = .ok n ↔ Spells (Text.trim text) n ∧ 1 ≤ n ∧ n ≤ 512) ∧
    ((∃ message, parsePositive text = .error message) ↔
      ∀ n, Spells (Text.trim text) n → n = 0 ∨ 2 ^ 64 ≤ n) ∧
    ((∃ message, parseJobs text = .error message) ↔
      ∀ n, Spells (Text.trim text) n → n = 0 ∨ 512 < n) := by
  have hbound : countBound = 2 ^ 64 := rfl
  -- what the bounds come to
  have hpositive (n : Nat) : (n < countBound ∧ 1 ≤ n ∧ ∀ h ∈ (none : Option Nat), n ≤ h) ↔
      1 ≤ n ∧ n ≤ 2 ^ 64 - 1 := by
    simp only [Option.mem_def, reduceCtorEq, false_implies, implies_true, and_true, hbound]
    omega
  have hjobs (n : Nat) : (n < countBound ∧ 1 ≤ n ∧ ∀ h ∈ some 512, n ≤ h) ↔ 1 ≤ n ∧ n ≤ 512 := by
    simp only [Option.mem_def, Option.some.injEq, forall_eq', hbound]
    omega
  refine ⟨fun n => ?_, fun n => ?_, ?_, ?_⟩
  · rw [parsePositive, parseBounded_eq_ok_iff, hpositive]
  · rw [parseJobs, parseBounded_eq_ok_iff, hjobs]
  · unfold parsePositive
    rw [parseBounded_eq_error_iff]
    refine forall_congr' fun n => imp_congr_right fun _ => ?_
    rw [hpositive]
    omega
  · unfold parseJobs
    rw [parseBounded_eq_error_iff]
    refine forall_congr' fun n => imp_congr_right fun _ => ?_
    rw [hjobs]
    omega

example : parseJobs " +0000000000000000000000512\n".toList = .ok 512 := by rfl

end LineCensus.CommandLine
