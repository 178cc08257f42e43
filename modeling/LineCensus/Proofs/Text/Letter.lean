import LineCensus.Proofs.Text.Trim
import LineCensus.Text.Case

/-!
# `Proofs.Text.Letter` — ASCII letters and their case

`lowerAscii` changes letters only, and puts letters in their place. A test that treats all letters alike
therefore does not see it: texts are cut at characters that are no letters, and trimmed, where they were before.

## Contents

* `isAlpha_iff`, `toNat_toLower` — letters by their code points;
* `isAlpha_toLower`, `toLower_of_not_isAlpha`, `toLower_toLower` — a letter stays one, and all else as it is;
* `bne_toLower`, `isBlank_toLower` — tests that do not see the case;
* `takeWhile_lowerAscii`, `trim_lowerAscii` — texts cut and trimmed by such tests.
-/

namespace LineCensus.Text

/-! ## Letters -/

theorem isAlpha_iff {c : Char} :
    c.isAlpha = true ↔ (65 ≤ c.toNat ∧ c.toNat ≤ 90) ∨ (97 ≤ c.toNat ∧ c.toNat ≤ 122) := by
  have hranges : c.isAlpha =
      (decide (c.val ≥ 'A'.val ∧ c.val ≤ 'Z'.val) ||
        (decide (c.val ≥ 'a'.val) && decide (c.val ≤ 'z'.val))) := rfl
  rw [hranges]
  simp [UInt32.le_iff_toNat_le, ← Char.toNat_val]

theorem toNat_toLower (c : Char) :
    c.toLower.toNat = if 65 ≤ c.toNat ∧ c.toNat ≤ 90 then c.toNat + 32 else c.toNat := by
  have hupper : (c.val ≥ 'A'.val ∧ c.val ≤ 'Z'.val) ↔ 65 ≤ c.toNat ∧ c.toNat ≤ 90 := Iff.rfl
  unfold Char.toLower
  simp only [hupper]
  split
  · next h =>
    show (c.val + 32).toNat = c.val.toNat + 32
    have hle : c.val.toNat ≤ 90 := h.2
    rw [UInt32.toNat_add]
    exact Nat.mod_eq_of_lt (by simp; omega)
  · rfl

theorem isAlpha_toLower (c : Char) : c.toLower.isAlpha = c.isAlpha := by
  rw [Bool.eq_iff_iff, isAlpha_iff, isAlpha_iff, toNat_toLower]
  split <;> omega

/-- What is no letter has no case. -/
theorem toLower_of_not_isAlpha {c : Char} (h : c.isAlpha = false) : c.toLower = c := by
  apply Char.toNat_inj.mp
  rw [← Bool.not_eq_true, isAlpha_iff] at h
  rw [toNat_toLower]
  split <;> omega

theorem toLower_toLower (c : Char) : c.toLower.toLower = c.toLower := by
  have hlower : ¬ (65 ≤ c.toLower.toNat ∧ c.toLower.toNat ≤ 90) := by
    rw [toNat_toLower]
    split <;> omega
  apply Char.toNat_inj.mp
  rw [toNat_toLower c.toLower, if_neg hlower]

theorem isBlank_of_isAlpha {c : Char} (h : c.isAlpha = true) : isBlank c = false := by
  rw [isAlpha_iff] at h
  rw [← Bool.not_eq_true, isBlank, Ranges.has_iff]
  simp [blankRanges]
  omega

/-- Texts that are equal up to ASCII case have letters at the same places. -/
theorem isAlpha_of_eqIgnoreAsciiCase {s t : List Char} (h : eqIgnoreAsciiCase s t = true)
    (ht : t.all Char.isAlpha = true) : ∀ c ∈ s, c.isAlpha = true := by
  intro c hc
  rw [eqIgnoreAsciiCase, beq_iff_eq] at h
  have hlower : c.toLower ∈ lowerAscii t := h ▸ List.mem_map_of_mem hc
  obtain ⟨b, hb, hbc⟩ := List.mem_map.mp hlower
  rw [← isAlpha_toLower, ← hbc, isAlpha_toLower]
  exact List.all_eq_true.mp ht b hb

/-! ## Tests that do not see the case -/

/-- Whether a character differs from one that is no letter. -/
theorem bne_toLower {x : Char} (hx : x.isAlpha = false) (c : Char) : (c.toLower != x) = (c != x) := by
  cases hc : c.isAlpha with
  | false => rw [toLower_of_not_isAlpha hc]
  | true =>
    have hne : c ≠ x := by
      rintro rfl
      rw [hx] at hc
      cases hc
    have hlower : c.toLower ≠ x := by
      rintro rfl
      rw [isAlpha_toLower, hc] at hx
      cases hx
    rw [bne_iff_ne.mpr hne, bne_iff_ne.mpr hlower]

theorem isBlank_toLower (c : Char) : isBlank c.toLower = isBlank c := by
  cases hc : c.isAlpha with
  | false => rw [toLower_of_not_isAlpha hc]
  | true => rw [isBlank_of_isAlpha hc, isBlank_of_isAlpha (by rw [isAlpha_toLower, hc])]

/-! ## Texts in lower case -/

variable {p : Char → Bool}

theorem takeWhile_lowerAscii (hp : ∀ c, p c.toLower = p c) (s : List Char) :
    (lowerAscii s).takeWhile p = lowerAscii (s.takeWhile p) := by
  have htest : p ∘ Char.toLower = p := funext hp
  unfold lowerAscii
  rw [List.takeWhile_map, htest]

theorem trimStart_lowerAscii (s : List Char) : trimStart (lowerAscii s) = lowerAscii (trimStart s) := by
  have htest : isBlank ∘ Char.toLower = isBlank := funext isBlank_toLower
  unfold trimStart lowerAscii
  rw [List.dropWhile_map, htest]

theorem trim_lowerAscii (s : List Char) : trim (lowerAscii s) = lowerAscii (trim s) := by
  have hreverse : ∀ t : List Char, (lowerAscii t).reverse = lowerAscii t.reverse := by
    intro t
    exact List.map_reverse.symm
  unfold trim
  rw [trimStart_lowerAscii, trimEnd_eq_reverse, hreverse, trimStart_lowerAscii, hreverse]
  rfl

theorem lowerAscii_lowerAscii (s : List Char) : lowerAscii (lowerAscii s) = lowerAscii s := by
  unfold lowerAscii
  rw [List.map_map]
  apply List.map_congr_left
  intro c _
  exact toLower_toLower c

end LineCensus.Text
