import LineCensus.Path
import Mathlib.Order.Compare

/-!
# `Proofs.Path.Order` — the order of paths

Paths are compared step by step, and steps by their sort and then by the bytes of their names. Both orders
are total; that of steps tells all steps apart, that of paths only paths with different steps, so paths
that are spelled in different ways may compare as equal.

## Contents

* the instances `Std.TransOrd` and `Std.LawfulEqOrd` of steps, and `Std.TransCmp` of paths;
* `Path.compare_eq_eq_iff` — which paths compare as equal.
-/

namespace LineCensus

/-! ## Steps -/

/-- A step is known by its sort and its name. -/
theorem Component.eq_of_rank_of_nameBytes {a b : Component} (hrank : a.rank = b.rank)
    (hname : a.nameBytes = b.nameBytes) : a = b := by
  cases a <;> cases b <;> simp_all [Component.rank, Component.nameBytes]

-- steps are compared by one key after the other
instance : Std.TransOrd Component :=
  inferInstanceAs
    (Std.TransCmp (compareLex (compareOn Component.rank) (compareOn Component.nameBytes)))

instance : Std.LawfulEqOrd Component where
  eq_of_compare {a b} h := by
    have hkeys : (compareOn Component.rank a b).then (compareOn Component.nameBytes a b) = .eq := h
    rw [Ordering.then_eq_eq] at hkeys
    exact Component.eq_of_rank_of_nameBytes (Std.LawfulEqOrd.eq_of_compare hkeys.1)
      (Std.LawfulEqOrd.eq_of_compare hkeys.2)

/-! ## Paths -/

instance : Std.TransCmp Path.compare := inferInstanceAs (Std.TransCmp (compareOn Path.components))

namespace Path

variable {a b : Path}

/-- Paths compare as equal if they have the same steps. -/
theorem compare_eq_eq_iff : a.compare b = .eq ↔ a.components = b.components :=
  Std.LawfulEqOrd.compare_eq_iff_eq (a := a.components) (b := b.components)

example : (Path.ofString "a/./b").compare (Path.ofString "a/b") = .eq := by decide

end Path

end LineCensus
