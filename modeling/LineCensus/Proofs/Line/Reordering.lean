import LineCensus.Proofs.Line.Renumbering
import Mathlib.Data.List.Forall2

/-!
# `Proofs.Line.Reordering` — the order of the constructs of a language

Of several constructs that can open at one place the longest delimiter wins, and of equally long ones the
first. Two delimiters of one length at one place are the same text, so the order of a language decides only
between constructs that open with the same delimiter. If no two of them do, the order does not matter at
all: in another order the language gives the same scan, with the constructs under their new indices. Empty
delimiters open nothing, so any number of constructs may have them.

## Contents

* `DistinctOpenings` — no two constructs open with the same delimiter;
* `Reordering`, `Reordering.index` — the same constructs in another order, and where each one stands;
* `Reordering.opensAlike` — the same construct opens, at every place;
* `Reordering.Corresponds`, `scan_reordered` — the scan of the reordered language.
-/

namespace LineCensus

variable {cs ds : List Construct}

/-! ## One construct for each delimiter -/

/-- No two constructs open with the same delimiter, but for empty ones. -/
def DistinctOpenings (cs : List Construct) : Prop :=
  cs.Pairwise fun c d => c.opening ≠ [] → c.opening ≠ d.opening

instance : Decidable (DistinctOpenings cs) := inferInstanceAs (Decidable (cs.Pairwise _))

/-- Then the delimiter tells the index. -/
theorem DistinctOpenings.index_eq (h : DistinctOpenings cs) {c d : Construct} {i j : Nat}
    (hc : cs[i]? = some c) (hd : cs[j]? = some d) (hne : c.opening ≠ []) (heq : c.opening = d.opening) :
    i = j := by
  obtain ⟨hi, rfl⟩ := List.getElem?_eq_some_iff.mp hc
  obtain ⟨hj, rfl⟩ := List.getElem?_eq_some_iff.mp hd
  rcases Nat.lt_trichotomy i j with hlt | hij | hgt
  · exact absurd heq (List.pairwise_iff_getElem.mp h i j hi hj hlt hne)
  · exact hij
  · exact absurd heq.symm (List.pairwise_iff_getElem.mp h j i hj hi hgt (heq ▸ hne))

/-! ## Another order -/

/-- The same constructs in another order: where each of them stands there. -/
structure Reordering (cs ds : List Construct) where
  place : Fin cs.length ≃ Fin ds.length
  get_place : ∀ i, ds.get (place i) = cs.get i

namespace Reordering

variable (r : Reordering cs ds)

/-- The index in the other order. -/
def index (i : Nat) : Nat := if h : i < cs.length then (r.place ⟨i, h⟩).val else i

theorem index_val (i : Fin cs.length) : r.index i.val = (r.place i).val := by
  rw [index, dif_pos i.isLt]

theorem renumbers : Renumbers r.index cs ds := by
  intro i c hc
  obtain ⟨hi, rfl⟩ := List.getElem?_eq_some_iff.mp hc
  have hget : ds.get (r.place ⟨i, hi⟩) = cs[i] := r.get_place ⟨i, hi⟩
  rw [r.index_val ⟨i, hi⟩, List.getElem?_eq_getElem (r.place ⟨i, hi⟩).isLt]
  exact congrArg some hget

/-- Every construct of the other order stands in the first one. -/
theorem exists_of_getElem?_eq_some {d : Construct} {j : Nat} (h : ds[j]? = some d) :
    ∃ i, cs[i]? = some d ∧ r.index i = j := by
  obtain ⟨hj, rfl⟩ := List.getElem?_eq_some_iff.mp h
  let i : Fin cs.length := r.place.symm ⟨j, hj⟩
  have hplace : r.place i = ⟨j, hj⟩ := r.place.apply_symm_apply ⟨j, hj⟩
  have hget : cs.get i = ds[j] := by rw [← r.get_place i, hplace]; rfl
  refine ⟨i.val, ?_, ?_⟩
  · rw [List.getElem?_eq_getElem i.isLt]
    exact congrArg some hget
  · rw [r.index_val, hplace]

/-- **At every place the same construct opens** in both orders. -/
theorem opensAlike (h : DistinctOpenings cs) (text : List Char) : OpensAlike r.index cs ds text := by
  unfold OpensAlike
  cases hopens : opensHere? cs text with
  | none =>
    rw [opensHere?_eq_none_iff] at hopens
    refine opensHere?_eq_none_iff.mpr ?_
    intro d hmem
    obtain ⟨j, hd⟩ := List.mem_iff_getElem?.mp hmem
    obtain ⟨i, hc, -⟩ := r.exists_of_getElem?_eq_some hd
    exact hopens d (List.mem_of_getElem? hc)
  | some found =>
    obtain ⟨c, i⟩ := found
    obtain ⟨hc, hhere, hbest⟩ := opensHere?_eq_some_iff.mp hopens
    refine opensHere?_eq_some_iff.mpr ⟨r.renumbers i c hc, hhere, ?_⟩
    intro d j hd hdhere
    obtain ⟨k, hk, rfl⟩ := r.exists_of_getElem?_eq_some hd
    rcases hbest d k hk hdhere with hshorter | ⟨hlength, -⟩
    · exact Or.inl hshorter
    · -- as long and at the same place: the same delimiter, hence the same construct
      obtain ⟨hne, hprefix⟩ := Construct.opensHere_iff.mp hhere
      have hsame : c.opening = d.opening := by
        have hdprefix := (Construct.opensHere_iff.mp hdhere).2
        exact (List.prefix_of_prefix_length_le hprefix hdprefix hlength.ge).eq_of_length hlength.symm
      obtain rfl : i = k := h.index_eq hc hk hne hsame
      exact Or.inr ⟨hlength, Nat.le_refl _⟩

/-! ## Scans -/

/-- What is open in both orders: the same construct, and it stands where the reordering puts it. -/
structure Corresponds (o o' : Opened) : Prop where
  kind : o.kind = o'.kind
  construct : ∃ c, cs[o.index]? = some c ∧ ds[o'.index]? = some c
  index : ∃ i, o.index = i.val ∧ o'.index = (r.place i).val

theorem corresponds_renumber {o : Opened} (h : o.Genuine cs) :
    r.Corresponds o (o.renumber r.index) := by
  obtain ⟨c, hc, -⟩ := h
  have hindex : o.index < cs.length := (List.getElem?_eq_some_iff.mp hc).1
  exact ⟨rfl, ⟨c, hc, r.renumbers o.index c hc⟩, ⟨o.index, hindex⟩, rfl, r.index_val ⟨o.index, hindex⟩⟩

end Reordering

/-- **The order of a language does not matter** if no two of its constructs open with the same delimiter:
scanned side by side from nothing open, two orders give each line the same kind, and after each step the
same construct is open in both, if any is. -/
theorem scan_reordered (r : Reordering cs ds) (h : DistinctOpenings cs) (steps : List Step) :
    List.Forall₂ (fun result result' => result.1 = result'.1 ∧ Option.Rel r.Corresponds result.2 result'.2)
      (scan cs none steps) (scan ds none steps) := by
  have hfresh : ∀ o ∈ (none : Option Opened), o.Genuine cs := by simp
  have hscan : scan ds none steps = (scan cs none steps).map fun result =>
      (result.1, result.2.map (Opened.renumber r.index)) :=
    scan_renumber r.renumbers hfresh fun line _ t _ => r.opensAlike h t
  rw [hscan, List.forall₂_map_right_iff, List.forall₂_same]
  intro result hmem
  refine ⟨rfl, ?_⟩
  have hgenuine : ∀ o ∈ result.2, o.Genuine cs := genuine_of_mem_scan hfresh hmem
  cases hopened : result.2 with
  | none => exact .none
  | some o => exact .some (r.corresponds_renumber (hgenuine o hopened))

/-- A slash alone, a block comment and a string: the delimiters of the comments start alike, and the two
orders number all that is opened differently. -/
theorem scan_reordered_slashes :
    let cs : List Construct := [.blockComment ['/', '*'] ['*', '/'], .lineComment ['/'], .doubleQuoted]
    let steps : List Step := [.line ['x', '"'], .line ['"', '/', '*'], .line ['/', '*', '/', '/']]
    DistinctOpenings cs ∧ ∃ r : Reordering cs cs.reverse,
      scan cs none steps =
        [(some .code, some ⟨.string, 2⟩), (some .code, some ⟨.blockComment, 0⟩), (some .comment, none)] ∧
      scan cs.reverse none steps =
        [(some .code, some ⟨.string, 0⟩), (some .code, some ⟨.blockComment, 2⟩), (some .comment, none)] ∧
      List.Forall₂
        (fun result result' => result.1 = result'.1 ∧ Option.Rel r.Corresponds result.2 result'.2)
        (scan cs none steps) (scan cs.reverse none steps) := by
  intro cs steps
  have hdistinct : DistinctOpenings cs := by decide
  have hfresh : ∀ (all : List Construct), ∀ o ∈ (none : Option Opened), o.Genuine all := by simp
  have hlexer := fun all => scan_eq_lexer (hfresh all) [['x', '"'], ['"', '/', '*'], ['/', '*', '/', '/']]
  let reversal : Fin 3 ≃ Fin 3 := ⟨Fin.rev, Fin.rev, Fin.rev_rev, Fin.rev_rev⟩
  let r : Reordering cs cs.reverse := ⟨reversal, by decide⟩
  refine ⟨hdistinct, r, ?_, ?_, scan_reordered r hdistinct steps⟩
  · exact (hlexer cs).trans (by decide)
  · exact (hlexer cs.reverse).trans (by decide)

end LineCensus
