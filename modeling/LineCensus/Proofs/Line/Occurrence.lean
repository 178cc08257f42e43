import LineCensus.Construct.Search

/-!
# `Proofs.Line.Occurrence` — the first occurrence is found, and it is the first

`exists_of_find?_eq_some` says that what `find?` answers stands in the text. This module adds the other
half: an occurrence is never overlooked.

## Contents

* `prefix_of_byteLength_le` — offsets order the initial parts of one text;
* `find?_append_le` — an occurrence bounds the offset that is found;
* `find?_eq_none_iff` — nothing is found exactly when there is no occurrence;
* `not_prefix_of_find?` — before the offset found no suffix of the skipped text starts an occurrence.
-/

namespace LineCensus

open Text

/-! ## Initial parts of one text and their lengths -/

/-- Of two initial parts of a text the one with fewer bytes is an initial part of the other. -/
theorem prefix_of_byteLength_le {s t text : List Char} (hs : s <+: text) (ht : t <+: text)
    (hle : byteLength s ≤ byteLength t) : s <+: t := by
  rcases List.prefix_or_prefix_of_prefix hs ht with h | h
  · exact h
  · obtain ⟨u, rfl⟩ := h
    rw [byteLength_append] at hle
    have hu : u = [] := byteLength_eq_zero.mp (by omega)
    exact ⟨[], by simp [hu]⟩

theorem byteLength_le_of_prefix {s t : List Char} (h : s <+: t) : byteLength s ≤ byteLength t := by
  obtain ⟨u, rfl⟩ := h
  rw [byteLength_append]
  exact Nat.le_add_right _ _

/-- Initial parts of one text are compared by characters as they are by bytes. -/
theorem length_le_iff_of_prefix {s t text : List Char} (hs : s <+: text) (ht : t <+: text) :
    s.length ≤ t.length ↔ byteLength s ≤ byteLength t := by
  constructor
  · intro hle
    exact byteLength_le_of_prefix (List.prefix_of_prefix_length_le hs ht hle)
  · intro hle
    exact (prefix_of_byteLength_le hs ht hle).length_le

/-! ## Completeness of the search -/

/-- An occurrence at the start of the text is found there. -/
theorem find?_eq_some_zero {d s : List Char} (h : d <+: s) : find? d s = some 0 := by
  cases s with
  | nil => simp [find?, List.prefix_nil.mp h]
  | cons c s => simp [find?, List.isPrefixOf_iff_prefix.mpr h]

theorem find?_cons_eq_map {d s : List Char} {c : Char} (h : ¬ d <+: c :: s) :
    find? d (c :: s) = (find? d s).map (c.utf8Size + ·) := by
  simp [find?, h]

/-- **No occurrence is overlooked**: if the text holds `d` after `before`, something is found, and not
later. -/
theorem find?_append_le {d : List Char} (before after : List Char) :
    ∃ n, find? d (before ++ (d ++ after)) = some n ∧ n ≤ byteLength before := by
  induction before with
  | nil => exact ⟨0, find?_eq_some_zero (List.prefix_append _ _), Nat.le_refl _⟩
  | cons c before ih =>
    obtain ⟨n, hfind, hle⟩ := ih
    rw [List.cons_append]
    by_cases hd : d <+: c :: (before ++ (d ++ after))
    · exact ⟨0, find?_eq_some_zero hd, Nat.zero_le _⟩
    · refine ⟨c.utf8Size + n, by rw [find?_cons_eq_map hd, hfind]; rfl, ?_⟩
      rw [byteLength_cons]
      omega

theorem find?_eq_none_iff {d s : List Char} : find? d s = none ↔ ¬ d <:+: s := by
  constructor
  · rintro hnone ⟨before, after, rfl⟩
    obtain ⟨n, hfind, -⟩ := find?_append_le before after
    rw [List.append_assoc, hfind] at hnone
    exact absurd hnone (by simp)
  · intro hocc
    rw [Option.eq_none_iff_forall_not_mem]
    intro n hn
    obtain ⟨before, after, rfl, -⟩ := exists_of_find?_eq_some hn
    exact hocc ⟨before, after, rfl⟩

/-- Nothing that starts within the text skipped is an occurrence. -/
theorem not_prefix_of_find? {d skipped rest t : List Char}
    (hfind : find? d (skipped ++ rest) = some (byteLength skipped)) (ht : t <:+ skipped)
    (hne : t ≠ []) : ¬ d <+: t ++ rest := by
  rintro ⟨after, hd⟩
  obtain ⟨front, rfl⟩ := ht
  obtain ⟨n, hfound, hle⟩ := find?_append_le front after
  rw [hd, ← List.append_assoc, hfind, Option.some.injEq] at hfound
  have hpos := byteLength_pos hne
  rw [byteLength_append] at hfound
  omega

end LineCensus
