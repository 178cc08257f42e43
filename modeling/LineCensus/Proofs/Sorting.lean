import Mathlib.Data.List.Basic
import Mathlib.Order.Compare

/-!
# `Proofs.Sorting` — stable sorting by a comparison

A stable sort is known by what it does to ties: a list in ascending order in which all that tie with a member
stand as they stood is determined (`StablySorted.eq`). This is where the comparison has to be transitive, and
oriented: turned around if its sides are.

## Contents

* `isLE_total` — an oriented comparison as merge sort asks for it;
* `StablySorted` — a stable rearrangement in ascending order;
* `eq_of_ties`, `StablySorted.eq` — there is one only; `stablySorted_of_mem` — and it can be told by its members;
* `pairwise_isLE_mergeSort`, `stablySorted_mergeSort` — and it is what merge sort gives.
-/

namespace LineCensus

variable {α : Type} {cmp : α → α → Ordering} {l m m' : List α} {a b : α}

/-- Of two things one does not come after the other. -/
theorem isLE_total [Std.OrientedCmp cmp] (a b : α) : ((cmp a b).isLE || (cmp b a).isLE) = true := by
  have hswap : cmp b a = (cmp a b).swap := Std.OrientedCmp.eq_swap
  rw [hswap]
  cases cmp a b <;> rfl

/-! ## Stable rearrangements -/

/-- A rearrangement in ascending order in which all that tie stand as they stood. -/
structure StablySorted (cmp : α → α → Ordering) (l m : List α) : Prop where
  perm : m.Perm l
  ascending : m.Pairwise fun a b => cmp a b ≠ .gt
  ties : ∀ a, m.filter (cmp a · == .eq) = l.filter (cmp a · == .eq)

/-- What ties with the head of a list is the head, and what ties with it further on. -/
theorem filter_ties_cons [Std.ReflCmp cmp] :
    (a :: l).filter (cmp a · == .eq) = a :: l.filter (cmp a · == .eq) :=
  List.filter_cons_of_pos (by simp [Std.ReflCmp.compare_self])

/-- A list in which nothing ties with anything has no members. -/
theorem eq_nil_of_ties [Std.ReflCmp cmp] (h : ∀ c, l.filter (cmp c · == .eq) = []) : l = [] := by
  cases l with
  | nil => rfl
  | cons a l =>
    have hnil := h a
    rw [filter_ties_cons] at hnil
    cases hnil

/-- Where the ties are the same, the head of an ascending list does not come after the head of the other. -/
theorem head_le_of_ties [Std.TransCmp cmp] (hl : (a :: l).Pairwise fun a b => cmp a b ≠ .gt)
    (hties : ∀ c, (a :: l).filter (cmp c · == .eq) = (b :: m).filter (cmp c · == .eq)) :
    cmp a b ≠ .gt := by
  have hmem : b ∈ (a :: l).filter (cmp b · == .eq) := by
    rw [hties, filter_ties_cons]
    exact List.mem_cons_self
  rcases List.mem_cons.mp (List.mem_filter.mp hmem).1 with rfl | hmem
  · simp [Std.ReflCmp.compare_self]
  · exact (List.pairwise_cons.mp hl).1 b hmem

/-- **Ascending lists with the same ties are the same list.** Their heads tie, and what ties with them begins
with them. -/
theorem eq_of_ties [Std.TransCmp cmp] (hm : m.Pairwise fun a b => cmp a b ≠ .gt)
    (hm' : m'.Pairwise fun a b => cmp a b ≠ .gt)
    (hties : ∀ c, m.filter (cmp c · == .eq) = m'.filter (cmp c · == .eq)) : m = m' := by
  induction m generalizing m' with
  | nil => exact (eq_nil_of_ties fun c => (hties c).symm).symm
  | cons a m ih =>
    cases m' with
    | nil => exact eq_nil_of_ties hties
    | cons b m' =>
      have hab : cmp a b = .eq :=
        Std.OrientedCmp.isLE_antisymm (Ordering.isLE_iff_ne_gt.mpr (head_le_of_ties hm hties))
          (Ordering.isLE_iff_ne_gt.mpr (head_le_of_ties hm' fun c => (hties c).symm))
      obtain rfl : a = b := by
        have hheads := hties a
        rw [filter_ties_cons, List.filter_cons_of_pos (by simp [hab])] at hheads
        exact (List.cons.inj hheads).1
      have htails : ∀ c, m.filter (cmp c · == .eq) = m'.filter (cmp c · == .eq) := by
        intro c
        have hboth := hties c
        rw [List.filter_cons, List.filter_cons] at hboth
        split at hboth
        · exact (List.cons.inj hboth).2
        · exact hboth
      rw [ih (List.pairwise_cons.mp hm).2 (List.pairwise_cons.mp hm').2 htails]

/-- **There is one stable sort only.** -/
theorem StablySorted.eq [Std.TransCmp cmp] (h : StablySorted cmp l m) (h' : StablySorted cmp l m') :
    m = m' :=
  eq_of_ties h.ascending h'.ascending fun a => (h.ties a).trans (h'.ties a).symm

/-- Of ties only those with a member need to be looked at. -/
theorem stablySorted_of_mem [Std.TransCmp cmp] (hperm : m.Perm l)
    (hascending : m.Pairwise fun a b => cmp a b ≠ .gt)
    (hties : ∀ a ∈ l, m.filter (cmp a · == .eq) = l.filter (cmp a · == .eq)) : StablySorted cmp l m := by
  refine ⟨hperm, hascending, fun a => ?_⟩
  by_cases htie : ∃ b ∈ l, cmp a b = .eq
  · obtain ⟨b, hb, hab⟩ := htie
    have hsame : (cmp a · == .eq) = (cmp b · == .eq) := by
      funext c
      rw [Std.TransCmp.congr_left hab]
    rw [hsame]
    exact hties b hb
  · have hnone : ∀ b ∈ l, ¬ (cmp a b == .eq) = true := by
      intro b hb htrue
      exact htie ⟨b, hb, beq_iff_eq.mp htrue⟩
    rw [List.filter_eq_nil_iff.mpr hnone, List.filter_eq_nil_iff.mpr fun b hb => hnone b (hperm.subset hb)]

/-! ## Merge sort -/

/-- Merge sort puts a list in ascending order. -/
theorem pairwise_isLE_mergeSort [Std.TransCmp cmp] (l : List α) :
    (l.mergeSort fun a b => (cmp a b).isLE).Pairwise fun a b => (cmp a b).isLE :=
  List.pairwise_mergeSort (fun _ _ _ => Std.TransCmp.isLE_trans) isLE_total l

/-- **Merge sort gives the stable sort.** -/
theorem stablySorted_mergeSort [Std.TransCmp cmp] (l : List α) :
    StablySorted cmp l (l.mergeSort fun a b => (cmp a b).isLE) := by
  have hperm := List.mergeSort_perm l fun a b => (cmp a b).isLE
  refine ⟨hperm, (pairwise_isLE_mergeSort l).imp Ordering.isLE_iff_ne_gt.mp, fun a => ?_⟩
  -- all that tie are ascending as they stand, so they are left as they stand
  have hascending : (l.filter (cmp a · == .eq)).Pairwise fun b c => (cmp b c).isLE := by
    refine List.pairwise_of_forall_mem_list fun b hb c hc => ?_
    have hab : cmp a b = .eq := by simpa using (List.mem_filter.mp hb).2
    have hac : cmp a c = .eq := by simpa using (List.mem_filter.mp hc).2
    rw [Std.TransCmp.eq_trans (Std.OrientedCmp.eq_symm hab) hac]
    rfl
  have hsublist := List.sublist_mergeSort (fun _ _ _ => Std.TransCmp.isLE_trans) isLE_total hascending
    List.filter_sublist
  have hties := hsublist.filter (cmp a · == .eq)
  simp only [List.filter_filter, Bool.and_self] at hties
  exact (hties.eq_of_length (hperm.filter _).length_eq.symm).symm

end LineCensus
