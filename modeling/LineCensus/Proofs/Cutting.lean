import Mathlib.Data.List.TakeWhile

/-!
# `Proofs.Cutting` — lists cut at a separator

What stands before the first separator of a list, and what is left from there on. A list that is put together
around a separator is taken apart again at the same place, if there is no separator before it.

## Contents

* `takeWhile_append_cons` — what follows a member that ends the first part does not matter;
* `takeWhile_bne_append`, `dropWhile_bne_append` — the first separator;
* `takeWhile_bne_of_not_mem`, `dropWhile_bne_of_not_mem` — a list without one.
-/

namespace LineCensus

variable {α : Type} {l : List α}

/-- A list is cut where it was, whatever follows the cut. -/
theorem takeWhile_append_cons {p : α → Bool} {a : α} (h : p a = false) (l l' : List α) :
    (l ++ a :: l').takeWhile p = l.takeWhile p := by
  induction l with
  | nil => simp [h]
  | cons b l ih => rw [List.cons_append, List.takeWhile_cons, List.takeWhile_cons, ih]

section Separator

variable [BEq α] [LawfulBEq α] {sep : α}

theorem forall_bne_of_not_mem (h : sep ∉ l) : ∀ a ∈ l, (a != sep) = true := by
  intro a ha
  exact bne_iff_ne.mpr (ne_of_mem_of_not_mem ha h)

theorem takeWhile_bne_of_not_mem (h : sep ∉ l) : l.takeWhile (· != sep) = l :=
  List.takeWhile_eq_self_iff.mpr (forall_bne_of_not_mem h)

theorem dropWhile_bne_of_not_mem (h : sep ∉ l) : l.dropWhile (· != sep) = [] :=
  List.dropWhile_eq_nil_iff.mpr (forall_bne_of_not_mem h)

theorem takeWhile_bne_append (h : sep ∉ l) (l' : List α) : (l ++ sep :: l').takeWhile (· != sep) = l := by
  rw [takeWhile_append_cons (by simp), takeWhile_bne_of_not_mem h]

theorem dropWhile_bne_append (h : sep ∉ l) (l' : List α) :
    (l ++ sep :: l').dropWhile (· != sep) = sep :: l' := by
  rw [List.dropWhile_append_of_pos (forall_bne_of_not_mem h), List.dropWhile_cons_of_neg (by simp)]

end Separator

end LineCensus
