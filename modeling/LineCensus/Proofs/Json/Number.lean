import LineCensus.Decimal.Text
import LineCensus.Json.Reader

/-!
# `Proofs.Json.Number` — numbers as JSON has them

The grammar of numbers, and that both kinds of numbers in a report keep to it: counts, which are digits, and
averages, whose digits are laid out around a point or before an exponent. What the grammar allows the reader
takes whole, as long as what follows cannot be read as more of the number.

## Contents

* `Json.IsNumber` — the grammar, with `IsDigits`, `IsWhole`, `IsFraction` and `IsExponent` for its parts;
* `Json.EndsNumber`, `Json.readNumber?_append` — a number is read up to its end;
* `isWhole_toDigits`, `Decimal.Spelling.isNumber_write` — digits, and decimals in any layout.
-/

namespace LineCensus

namespace Json

/-! ## The grammar -/

/-- One digit or more. -/
def IsDigits (s : List Char) : Prop := s ≠ [] ∧ ∀ c ∈ s, c.isDigit = true

/-- Digits with no zero before others. -/
def IsWhole (s : List Char) : Prop := IsDigits s ∧ (s.head? = some '0' → s = ['0'])

/-- Nothing, or a point and digits. -/
def IsFraction (s : List Char) : Prop := s = [] ∨ ∃ digits, s = '.' :: digits ∧ IsDigits digits

/-- Nothing, or a letter, perhaps a sign, and digits. -/
def IsExponent (s : List Char) : Prop :=
  s = [] ∨ ∃ e sign digits, s = e :: (sign ++ digits) ∧ (e = 'e' ∨ e = 'E') ∧
    (sign = [] ∨ sign = ['+'] ∨ sign = ['-']) ∧ IsDigits digits

/-- A number: perhaps a minus sign, a whole number, a fraction and an exponent. -/
def IsNumber (s : List Char) : Prop :=
  ∃ sign whole fraction exponent, s = sign ++ (whole ++ (fraction ++ exponent)) ∧
    (sign = [] ∨ sign = ['-']) ∧ IsWhole whole ∧ IsFraction fraction ∧ IsExponent exponent

theorem IsWhole.isNumber {s : List Char} (h : IsWhole s) : IsNumber s :=
  ⟨[], s, [], [], by simp, .inl rfl, h, .inl rfl, .inl rfl⟩

/-! ## Reading -/

/-- What stands behind a number and is no part of it. -/
def EndsNumber (rest : List Char) : Prop :=
  ∀ c ∈ rest.head?, c.isDigit = false ∧ c ≠ '.' ∧ c ≠ 'e' ∧ c ≠ 'E'

variable {s rest : List Char}

/-- No digit comes next. -/
def NoDigit (rest : List Char) : Prop := ∀ c ∈ rest.head?, c.isDigit = false

theorem EndsNumber.noDigit (h : EndsNumber rest) : NoDigit rest := fun c hc => (h c hc).1

theorem NoDigit.of_exponent (hs : IsExponent s) (h : EndsNumber rest) : NoDigit (s ++ rest) := by
  rcases hs with rfl | ⟨e, sign, digits, rfl, he, -, -⟩
  · exact h.noDigit
  · intro c hc
    obtain rfl : e = c := Option.some.inj hc
    rcases he with rfl | rfl <;> decide

theorem NoDigit.of_fraction (hs : IsFraction s) (h : NoDigit rest) : NoDigit (s ++ rest) := by
  rcases hs with rfl | ⟨digits, rfl, -⟩
  · exact h
  · intro c hc
    obtain rfl : '.' = c := Option.some.inj hc
    decide

theorem readDigits?_append (hs : IsDigits s) (h : NoDigit rest) :
    readDigits? (s ++ rest) = some (s, rest) := by
  obtain ⟨hne, hdigits⟩ := hs
  have hstop : rest.takeWhile Char.isDigit = [] ∧ rest.dropWhile Char.isDigit = rest := by
    cases rest with
    | nil => exact ⟨rfl, rfl⟩
    | cons c rest => simp [h c rfl]
  simp only [readDigits?, List.takeWhile_append_of_pos hdigits, List.dropWhile_append_of_pos hdigits,
    hstop.1, hstop.2, List.append_nil, List.isEmpty_iff, if_neg hne]

theorem readWhole?_append (hs : IsWhole s) (h : NoDigit rest) :
    readWhole? (s ++ rest) = some (s, rest) := by
  obtain ⟨hdigits, hzero⟩ := hs
  obtain ⟨c, s, rfl⟩ := List.exists_cons_of_ne_nil hdigits.1
  by_cases hc : c = '0'
  · -- a zero stands alone
    obtain rfl : s = [] := by
      have := hzero (by rw [hc]; rfl)
      exact (List.cons.inj this).2
    have hnone : rest.head?.any Char.isDigit = false := by
      cases rest with
      | nil => rfl
      | cons c' rest => exact h c' rfl
    simp [hc, readWhole?, hnone]
  · have hread : readWhole? (c :: s ++ rest) = readDigits? (c :: s ++ rest) := by
      rw [List.cons_append, readWhole?.eq_def]
      split
      · next heq => exact absurd (List.cons.inj heq).1 hc
      · rfl
    rw [hread, readDigits?_append hdigits h]

theorem readFraction?_append (hs : IsFraction s) (hdot : ∀ c ∈ rest.head?, c ≠ '.') (h : NoDigit rest) :
    readFraction? (s ++ rest) = some (s, rest) := by
  rcases hs with rfl | ⟨digits, rfl, hdigits⟩
  · rw [List.nil_append, readFraction?.eq_def]
    split
    · exact absurd rfl (hdot '.' rfl)
    · rfl
  · rw [List.cons_append, readFraction?, readDigits?_append hdigits h]
    rfl

theorem readExponent?_append (hs : IsExponent s) (h : EndsNumber rest) :
    readExponent? (s ++ rest) = some (s, rest) := by
  rcases hs with rfl | ⟨e, sign, digits, rfl, he, hsign, hdigits⟩
  · cases rest with
    | nil => rfl
    | cons c rest =>
      obtain ⟨-, -, he, hE⟩ := h c rfl
      simp [readExponent?, he, hE]
  · have hread : readDigits? (digits ++ rest) = some (digits, rest) := readDigits?_append hdigits h.noDigit
    obtain ⟨d, digits, rfl⟩ := List.exists_cons_of_ne_nil hdigits.1
    rcases hsign with rfl | hsign
    · -- without a sign the first digit stands where a sign may stand
      have hd : d.isDigit = true := hdigits.2 d List.mem_cons_self
      have hplus : d ≠ '+' := by
        rintro rfl
        exact absurd hd (by decide)
      have hminus : d ≠ '-' := by
        rintro rfl
        exact absurd hd (by decide)
      rw [List.cons_append] at hread
      simp [readExponent?, he, hplus, hminus, hread]
    · rw [List.cons_append] at hread
      rcases hsign with rfl | rfl <;> simp [readExponent?, he, hread]

theorem IsWhole.ne_minus {t : List Char} (hs : IsWhole s) : s ++ rest ≠ '-' :: t := by
  obtain ⟨⟨hne, hdigits⟩, -⟩ := hs
  obtain ⟨c, s, rfl⟩ := List.exists_cons_of_ne_nil hne
  intro heq
  obtain ⟨rfl, -⟩ := List.cons.inj heq
  exact absurd (hdigits '-' List.mem_cons_self) (by decide)

/-- **A number is read whole**, and what stands behind it is left. -/
theorem readNumber?_append (hs : IsNumber s) (h : EndsNumber rest) :
    readNumber? (s ++ rest) = some (s, rest) := by
  obtain ⟨sign, whole, fraction, exponent, rfl, hsign, hwhole, hfraction, hexponent⟩ := hs
  have hafter : NoDigit (exponent ++ rest) := .of_exponent hexponent h
  have hwhole' := readWhole?_append hwhole (NoDigit.of_fraction hfraction hafter)
  have hdot : ∀ c ∈ (exponent ++ rest).head?, c ≠ '.' := by
    rcases hexponent with rfl | ⟨e, sign', digits, rfl, he, -, -⟩
    · exact fun c hc => (h c hc).2.1
    · intro c hc
      obtain rfl : e = c := Option.some.inj hc
      rcases he with rfl | rfl <;> decide
  have hfraction' := readFraction?_append hfraction hdot hafter
  have hexponent' := readExponent?_append hexponent h
  simp only [List.append_assoc]
  rcases hsign with rfl | rfl
  · rw [List.nil_append, readNumber?, hwhole']
    · simp [hfraction', hexponent']
    · intro t ht
      exact hwhole.ne_minus ht
  · simp [readNumber?, hwhole', hfraction', hexponent']

end Json

/-! ## Digits -/

open Json

theorem isDigits_toDigits (n : Nat) : IsDigits (Nat.toDigits 10 n) :=
  ⟨Nat.toDigits_ne_nil, fun _ hc => Nat.isDigit_of_mem_toDigits (by decide) (by decide) hc⟩

/-- Only zero is written with a zero in front. -/
theorem head?_toDigits_ne {n : Nat} (h : n ≠ 0) : (Nat.toDigits 10 n).head? ≠ some '0' := by
  induction n using Nat.strongRecOn with
  | ind n ih =>
    by_cases hlt : n < 10
    · rw [Nat.toDigits_of_lt_base hlt]
      simpa using h
    · have hge : 10 ≤ n := Nat.le_of_not_lt hlt
      obtain ⟨c, s, hfront⟩ := List.exists_cons_of_ne_nil (Nat.toDigits_ne_nil (n := n / 10) (b := 10))
      have hnext := ih (n / 10) (by omega) (by omega)
      rw [hfront] at hnext
      rwa [Nat.toDigits_of_base_le (by decide) hge, hfront]

theorem isWhole_toDigits (n : Nat) : IsWhole (Nat.toDigits 10 n) := by
  refine ⟨isDigits_toDigits n, fun hzero => ?_⟩
  by_cases hn : n = 0
  · rw [hn]
    rfl
  · exact absurd hzero (head?_toDigits_ne hn)

/-! ## Decimals -/

namespace Json.IsDigits

variable {s t : List Char}

theorem append (hs : IsDigits s) (ht : ∀ c ∈ t, c.isDigit = true) : IsDigits (s ++ t) := by
  refine ⟨by simp [hs.1], fun c hc => ?_⟩
  rcases List.mem_append.mp hc with hc | hc
  · exact hs.2 c hc
  · exact ht c hc

theorem zeros (n : Nat) : ∀ c ∈ List.replicate n '0', c.isDigit = true := by
  intro c hc
  rw [List.eq_of_mem_replicate hc]
  rfl

theorem zero : IsDigits ['0'] := ⟨List.cons_ne_nil _ _, List.forall_mem_singleton.mpr rfl⟩

theorem zeros_append (n : Nat) (hs : IsDigits s) : IsDigits (List.replicate n '0' ++ s) := by
  refine ⟨by simp [hs.1], fun c hc => ?_⟩
  rcases List.mem_append.mp hc with hc | hc
  · exact zeros n c hc
  · exact hs.2 c hc

/-- Some of the digits, if there are any. -/
theorem of_subset (hs : IsDigits s) (hne : t ≠ []) (h : t ⊆ s) : IsDigits t :=
  ⟨hne, fun c hc => hs.2 c (h hc)⟩

end Json.IsDigits

namespace Decimal

/-- A point with digits on both sides, of which those before it are written as a whole number. -/
theorem isNumber_point {whole fraction exponent : List Char} (hwhole : IsDigits whole)
    (hhead : whole.head? ≠ some '0' ∨ whole = ['0']) (hfraction : IsDigits fraction)
    (hexponent : IsExponent exponent) : IsNumber (whole ++ '.' :: fraction ++ exponent) := by
  refine ⟨[], whole, '.' :: fraction, exponent, by simp, .inl rfl, ⟨hwhole, fun hzero => ?_⟩,
    .inr ⟨fraction, rfl, hfraction⟩, hexponent⟩
  exact hhead.resolve_left fun hne => hne hzero

theorem isExponent_exponentText {plus : List Char} (hplus : plus = [] ∨ plus = ['+']) (e : Int) :
    IsExponent ('e' :: exponentText plus e) := by
  unfold exponentText
  split
  · exact .inr ⟨'e', ['-'], natText (-e).toNat, rfl, .inl rfl, .inr (.inr rfl), isDigits_toDigits _⟩
  · refine .inr ⟨'e', plus, natText e.toNat, rfl, .inl rfl, ?_, isDigits_toDigits _⟩
    exact hplus.imp_right .inl

/-- **A decimal in any layout is a number.** -/
theorem Spelling.isNumber_write {s : Spelling} (hplus : s.exponentPlus = [] ∨ s.exponentPlus = ['+'])
    (d : Digits) : IsNumber (s.write d) := by
  have hdigits : IsDigits (natText d.digits) := isDigits_toDigits d.digits
  have hnone : IsExponent [] := .inl rfl
  unfold Spelling.write
  simp only
  by_cases hzero : d.digits = 0
  · rw [if_pos hzero]
    exact isNumber_point .zero (.inr rfl) .zero hnone
  rw [if_neg hzero]
  have hhead : (natText d.digits).head? ≠ some '0' := head?_toDigits_ne hzero
  obtain ⟨c, later, htext⟩ := List.exists_cons_of_ne_nil hdigits.1
  rw [htext] at hdigits hhead ⊢
  have hc : IsDigits [c] := hdigits.of_subset (by simp) (by simp)
  split
  · split
    · -- zeros up to the point
      have hwhole : IsDigits (c :: later ++ List.replicate d.exponent.toNat '0') :=
        hdigits.append (IsDigits.zeros _)
      simpa using isNumber_point hwhole (.inl hhead) .zero hnone
    · next hbelow =>
      split
      · -- zeros after the point
        simpa using isNumber_point .zero (.inr rfl) (hdigits.zeros_append _) hnone
      · next hfirst =>
        -- the point among the digits, with one of them at least on either side
        generalize hk : (d.exponent + ((c :: later).length - 1 : Nat) + 1).toNat = k
        simp only [List.length_cons] at hfirst hk
        obtain ⟨k, rfl⟩ : ∃ j, k = j + 1 := Nat.exists_eq_succ_of_ne_zero (by omega)
        have hwhole : IsDigits ((c :: later).take (k + 1)) :=
          hdigits.of_subset (by simp) (List.take_subset _ _)
        have hfraction : IsDigits ((c :: later).drop (k + 1)) := by
          refine hdigits.of_subset ?_ (List.drop_subset _ _)
          rw [Ne, List.drop_eq_nil_iff, List.length_cons]
          omega
        simpa using isNumber_point hwhole (.inl hhead) hfraction hnone
  · -- one digit before the point and an exponent behind
    have hexponent := isExponent_exponentText hplus (d.exponent + ((c :: later).length - 1 : Nat))
    cases later with
    | nil =>
      refine ⟨[], [c], [], _, rfl, .inl rfl, ⟨hc, fun hzero => absurd hzero hhead⟩, .inl rfl, hexponent⟩
    | cons c' later =>
      have hfraction : IsDigits (c' :: later) := hdigits.of_subset (by simp) (List.subset_cons_self _ _)
      exact isNumber_point hc (.inl hhead) hfraction hexponent

end Decimal

end LineCensus
