import LineCensus.SortOrder
import LineCensus.Proofs.Sorting

/-!
# `Proofs.Report.Listing` — the order of the listed files

Files are compared column by column, each in its own direction. A column turned around has the same ties, so
files that no column tells apart stay as they stood, whatever the directions.

What sorting needs of a comparison is that it is transitive and oriented (`Std.TransCmp`). Columns are, since
they compare one figure or name; terms and orders are, since both are kept by a change of direction and by
putting one comparison after another.

## Contents

* the instances `Std.TransCmp` of columns, terms and orders;
* `SortKey.Ties`, `SortKey.Less` — what a column says of two files, by their figures and names;
* `SortOrder.compare_eq_eq_iff`, `SortOrder.compare_eq_lt_iff` — files that tie, and the first column that
  tells two files apart;
* `SortOrder.compare_remove` — a column that was there before has no effect;
* `stablySorted_iff_eq_listed` — the listed files are the one stable arrangement;
* `listed_in_stable_order` — all of this, and where the list is cut.
-/

namespace LineCensus

/-! ## Columns and directions -/

section Compare

variable {order : SortOrder} {term : SortTerm} {a b : FileRecord}

instance (key : SortKey) : Std.TransCmp key.compare := by
  cases key with
  | lines => exact inferInstanceAs (Std.TransCmp (compareOn fun f : FileRecord => f.tally.lines))
  | code => exact inferInstanceAs (Std.TransCmp (compareOn fun f : FileRecord => f.tally.code))
  | comment => exact inferInstanceAs (Std.TransCmp (compareOn fun f : FileRecord => f.tally.comment))
  | blank => exact inferInstanceAs (Std.TransCmp (compareOn fun f : FileRecord => f.tally.blank))
  | name => exact inferInstanceAs (Std.TransCmp (compareOn FileRecord.name))
  | language => exact inferInstanceAs (Std.TransCmp (compareOn FileRecord.language))

/-- A column compared downwards has the files the other way round. -/
theorem SortTerm.compare_descending (key : SortKey) :
    SortTerm.compare ⟨key, true⟩ = fun a b => key.compare b a := by
  funext a b
  exact Std.OrientedCmp.eq_swap.symm

instance (term : SortTerm) : Std.TransCmp term.compare := by
  obtain ⟨key, descending⟩ := term
  cases descending with
  | false => exact inferInstanceAs (Std.TransCmp key.compare)
  | true =>
    rw [SortTerm.compare_descending]
    infer_instance

/-- Two files have the same figure in a column, or the same name. -/
def SortKey.Ties (key : SortKey) (a b : FileRecord) : Prop :=
  match key with
  | .lines => a.tally.lines = b.tally.lines
  | .code => a.tally.code = b.tally.code
  | .comment => a.tally.comment = b.tally.comment
  | .blank => a.tally.blank = b.tally.blank
  | .name => a.name = b.name
  | .language => a.language = b.language

/-- The first of two files has the smaller figure in a column, or the name that comes first. -/
def SortKey.Less (key : SortKey) (a b : FileRecord) : Prop :=
  match key with
  | .lines => a.tally.lines < b.tally.lines
  | .code => a.tally.code < b.tally.code
  | .comment => a.tally.comment < b.tally.comment
  | .blank => a.tally.blank < b.tally.blank
  | .name => a.name < b.name
  | .language => a.language < b.language

/-- Names are compared as equal if they are the same. -/
theorem compare_string_eq_eq_iff {s t : String} : compare s t = .eq ↔ s = t :=
  Std.LawfulEqCmp.compare_eq_iff_eq

/-- A name is compared as less if it comes first. -/
theorem compare_string_eq_lt_iff {s t : String} : compare s t = .lt ↔ s < t :=
  compareOfLessAndEq_eq_lt

theorem SortKey.compare_eq_eq_iff {key : SortKey} : key.compare a b = .eq ↔ key.Ties a b := by
  cases key with
  | lines | code | comment | blank => exact Nat.compare_eq_eq
  | name | language => exact compare_string_eq_eq_iff

theorem SortKey.compare_eq_lt_iff {key : SortKey} : key.compare a b = .lt ↔ key.Less a b := by
  cases key with
  | lines | code | comment | blank => exact Nat.compare_eq_lt
  | name | language => exact compare_string_eq_lt_iff

theorem SortTerm.compare_eq_eq_iff : term.compare a b = .eq ↔ term.key.Ties a b := by
  rw [← SortKey.compare_eq_eq_iff]
  unfold SortTerm.compare
  split <;> simp

/-- A term puts a file before another one if the column does, in the direction of the term. -/
theorem SortTerm.compare_eq_lt_iff :
    term.compare a b = .lt ↔ if term.descending then term.key.Less b a else term.key.Less a b := by
  unfold SortTerm.compare
  split
  · rw [← SortKey.compare_eq_lt_iff, ← Std.OrientedCmp.eq_swap]
  · exact SortKey.compare_eq_lt_iff

namespace SortOrder

instance (order : SortOrder) : Std.TransCmp order.compare := by
  induction order with
  | nil => exact { eq_swap := rfl, isLE_trans := fun _ _ => rfl }
  | cons term terms ih => exact inferInstanceAs (Std.TransCmp (compareLex term.compare (compare terms)))

/-- **Files tie** if no column tells them apart. -/
theorem compare_eq_eq_iff : order.compare a b = .eq ↔ ∀ term ∈ order, term.key.Ties a b := by
  induction order with
  | nil => simp [compare]
  | cons term terms ih =>
    rw [compare, Ordering.then_eq_eq, ih, SortTerm.compare_eq_eq_iff, List.forall_mem_cons]

/-- **The first column that tells two files apart** decides, in its direction. -/
theorem compare_eq_lt_iff : order.compare a b = .lt ↔
    ∃ before term after, order = before ++ term :: after ∧
      (∀ t ∈ before, t.key.Ties a b) ∧
      if term.descending then term.key.Less b a else term.key.Less a b := by
  induction order with
  | nil => simp [compare]
  | cons head terms ih =>
    rw [compare, Ordering.then_eq_lt, ih, SortTerm.compare_eq_lt_iff, SortTerm.compare_eq_eq_iff]
    constructor
    · rintro (hhead | ⟨htie, before, term, after, rfl, hbefore, hterm⟩)
      · exact ⟨[], head, terms, rfl, by simp, hhead⟩
      · exact ⟨head :: before, term, after, rfl, List.forall_mem_cons.mpr ⟨htie, hbefore⟩, hterm⟩
    · rintro ⟨before, term, after, horder, hbefore, hterm⟩
      cases before with
      | nil =>
        obtain ⟨rfl, rfl⟩ := List.cons.inj horder
        exact .inl hterm
      | cons t before =>
        obtain ⟨rfl, rfl⟩ := List.cons.inj horder
        obtain ⟨htie, hbefore⟩ := List.forall_mem_cons.mp hbefore
        exact .inr ⟨htie, before, term, after, rfl, hbefore, hterm⟩

theorem compare_append (before after : SortOrder) :
    compare (before ++ after) a b = (compare before a b).then (compare after a b) := by
  induction before with
  | nil => rfl
  | cons term terms ih => rw [List.cons_append, compare, compare, ih, Ordering.then_assoc]

/-- **A column that was there before has no effect**, in either direction: once it is asked for again the
files tie in it. -/
theorem compare_remove {before after : SortOrder} (h : ∃ t ∈ before, t.key = term.key) :
    compare (before ++ term :: after) = compare (before ++ after) := by
  funext a b
  rw [compare_append, compare_append, compare]
  cases hbefore : compare before a b with
  | lt => rfl
  | gt => rfl
  | eq =>
    obtain ⟨t, hmem, hkey⟩ := h
    have htie : term.key.Ties a b := hkey ▸ compare_eq_eq_iff.mp hbefore t hmem
    rw [SortTerm.compare_eq_eq_iff.mpr htie]
    rfl

end SortOrder

end Compare

/-! ## The listed files -/

section Listed

variable {order : SortOrder} {files sorted : List FileRecord}

/-- **The files are listed in the one stable order.** -/
theorem stablySorted_iff_eq_listed :
    StablySorted order.compare files sorted ↔ sorted = listed order none files := by
  have hlisted : StablySorted order.compare files (listed order none files) := stablySorted_mergeSort files
  constructor
  · intro h
    exact h.eq hlisted
  · rintro rfl
    exact hlisted

theorem length_listed : (listed order none files).length = files.length :=
  List.length_mergeSort files

/-- Without columns the files stand as they stood. -/
theorem listed_nil (files : List FileRecord) : listed [] none files = files := by
  refine (stablySorted_iff_eq_listed.mp ⟨.refl files, ?_, fun _ => rfl⟩).symm
  exact List.pairwise_of_forall fun _ _ => nofun

/-- **The listed files are the first ones of the one stable order.** The comparison is oriented, total and
transitive; it is that of the first column that tells two files apart, in its direction. Sorted by it, files
that no column tells apart stand as they stood, and no other list is such an arrangement. A column that was
there before has no effect, in either direction. -/
theorem listed_in_stable_order (order : SortOrder) (files : List FileRecord) :
    ((∀ a b, order.compare b a = (order.compare a b).swap) ∧
      (∀ a b, (order.compare a b).isLE ∨ (order.compare b a).isLE) ∧
      ∀ a b c, (order.compare a b).isLE → (order.compare b c).isLE → (order.compare a c).isLE) ∧
    (∀ a b, order.compare a b = .eq ↔ ∀ term ∈ order, term.key.Ties a b) ∧
    (∀ a b, order.compare a b = .lt ↔ ∃ before term after, order = before ++ term :: after ∧
      (∀ t ∈ before, t.key.Ties a b) ∧
      if term.descending then term.key.Less b a else term.key.Less a b) ∧
    (∀ sorted, StablySorted order.compare files sorted ↔ sorted = listed order none files) ∧
    (∀ n, listed order (some n) files = (listed order none files).take (min n files.length)) ∧
    (∀ before term after, order = before ++ term :: after → (∃ t ∈ before, t.key = term.key) →
      order.compare = SortOrder.compare (before ++ after) ∧
        ∀ top, listed order top files = listed (before ++ after) top files) ∧
    listed [] none files = files := by
  refine ⟨⟨?_, ?_, ?_⟩, ?_, ?_, ?_, ?_, ?_, listed_nil files⟩
  · intro a b
    exact Std.OrientedCmp.eq_swap
  · intro a b
    exact Bool.or_eq_true_iff.mp (isLE_total a b)
  · intro a b c hab hbc
    exact Std.TransCmp.isLE_trans hab hbc
  · intro a b
    exact SortOrder.compare_eq_eq_iff
  · intro a b
    exact SortOrder.compare_eq_lt_iff
  · intro sorted
    exact stablySorted_iff_eq_listed
  · intro n
    have hlength : (listed order none files).length = files.length := length_listed
    rw [← hlength, ← List.take_eq_take_min]
    rfl
  · rintro before term after rfl hrepeated
    have hcompare : SortOrder.compare (before ++ term :: after) = SortOrder.compare (before ++ after) :=
      SortOrder.compare_remove hrepeated
    refine ⟨hcompare, fun top => ?_⟩
    unfold listed SortOrder.apply
    rw [hcompare]

/-- Four files that sorting rearranges, one column asked for in both directions: the file in another language
comes first, then the one with most code; of the two that tie the first one stays, the other is cut off. -/
theorem listed_in_stable_order_twice :
    let file (name language : String) (code : Nat) : FileRecord :=
      ⟨.ofString name, name, "", language, 0, ⟨code, code, 0, 0⟩⟩
    let files := [file "c" "C" 1, file "b" "C" 2, file "a" "C" 1, file "d" "Ada" 1]
    let order : SortOrder := [⟨.language, false⟩, ⟨.code, true⟩, ⟨.language, true⟩]
    let shorter : SortOrder := [⟨.language, false⟩, ⟨.code, true⟩]
    let sorted := [file "d" "Ada" 1, file "b" "C" 2, file "c" "C" 1, file "a" "C" 1]
    (∃ t ∈ shorter, t.key = SortKey.language) ∧
      order.compare (file "b" "C" 2) (file "c" "C" 1) = .lt ∧
      order.compare (file "c" "C" 1) (file "a" "C" 1) = .eq ∧
      StablySorted order.compare files sorted ∧
      (∀ top, listed order top files = listed shorter top files) ∧
      listed order (some 3) files = [file "d" "Ada" 1, file "b" "C" 2, file "c" "C" 1] := by
  intro file files order shorter sorted
  have hrepeated : ∃ t ∈ shorter, t.key = SortKey.language := ⟨_, List.mem_cons_self, rfl⟩
  obtain ⟨-, hties, hless, hsorted, hcut, hremove, -⟩ := listed_in_stable_order order files
  have hstable : StablySorted order.compare files sorted :=
    stablySorted_of_mem (by decide) (by decide) (by decide)
  refine ⟨hrepeated, ?_, ?_, hstable, ?_, ?_⟩
  · rw [hless]
    refine ⟨[⟨.language, false⟩], ⟨.code, true⟩, [⟨.language, true⟩], rfl, ?_, ?_⟩
    · rw [List.forall_mem_singleton]
      rfl
    · exact Nat.lt_succ_self 1
  · rw [hties]
    intro term hterm
    simp only [order, List.mem_cons, List.not_mem_nil, or_false] at hterm
    rcases hterm with rfl | rfl | rfl <;> rfl
  · exact (hremove shorter ⟨.language, true⟩ [] rfl hrepeated).2
  · rw [hcut, ← (hsorted sorted).mp hstable]
    rfl

end Listed

end LineCensus
