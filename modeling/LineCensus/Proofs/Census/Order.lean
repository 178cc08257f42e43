import LineCensus.Census
import LineCensus.Proofs.Path.Order
import LineCensus.Proofs.Sorting
import Mathlib.Data.List.Forall2

/-!
# `Proofs.Census.Order` — a census does not depend on the order of delivery

Files reach the census in whatever order the walk delivers them. What becomes of a file depends on the
catalog and the file alone (`Found.Becomes`), so another order permutes the records and the failures.
The records are then sorted by path, and sorting leaves open one thing only: the order among records whose
paths compare as equal, which may be spelled in different ways.

## Contents

* `Outcome`, `Found.Becomes` — what becomes of a file, rule by rule: always one thing
  (`Found.Becomes.unique`, `Found.exists_becomes`);
* `Census.Accounts` — every file is accounted for once, in its outcome;
* `Exchanged` — lists that differ in the order of tied records: sorted permutations do
  (`Exchanged.of_perm`), and where ties are equal records they are the same (`Exchanged.eq`);
* `Census.delivery_order` — the census of files in any order.
-/

namespace LineCensus

deriving instance DecidableEq for Found

/-! ## What becomes of a file -/

/-- What becomes of a file. -/
inductive Outcome where
  | counted (record : FileRecord)
  | failed (path : Path) (failure : Failure)
  | leftOut

/-- The record that the outcome adds to a census. -/
def Outcome.record? : Outcome → Option FileRecord
  | .counted record => some record
  | _ => none

/-- The failure that the outcome adds to a census, under its path. -/
def Outcome.failure? : Outcome → Option (Path × Failure)
  | .failed path failure => some (path, failure)
  | _ => none

/-- What counting a file answers, by its outcome. -/
def Outcome.answer : Outcome → Except Failure (Option FileRecord)
  | .counted record => .ok (some record)
  | .failed _ failure => .error failure
  | .leftOut => .ok none

/-- An outcome is known by what it adds. -/
theorem Outcome.eq_of_parts {o o' : Outcome} (hrecord : o.record? = o'.record?)
    (hfailure : o.failure? = o'.failure?) : o = o' := by
  cases o <;> cases o' <;> simp_all [Outcome.record?, Outcome.failure?]

/-- What becomes of a file. Its extension is looked up, the empty one if it has none or none that is text. A
file that no language claims is left out and so is one with a zero byte among its first 8192; one that a
language claims fails if it cannot be read, and is counted over its whole content otherwise. -/
inductive Found.Becomes (c : Catalog) (f : Found) : Outcome → Prop where
  | unclaimed : c.forExtension? (f.path.extensionText?.getD "") = none → Becomes c f .leftOut
  | unreadable {language : Language} {fault : ReadFault} :
      c.forExtension? (f.path.extensionText?.getD "") = some language → f.content = .error fault →
      Becomes c f (.failed f.path (.unreadable f.path fault))
  | binary {language : Language} {content : List UInt8} :
      c.forExtension? (f.path.extensionText?.getD "") = some language → f.content = .ok content →
      0 ∈ content.take 8192 → Becomes c f .leftOut
  | counted {language : Language} {content : List UInt8} :
      c.forExtension? (f.path.extensionText?.getD "") = some language → f.content = .ok content →
      0 ∉ content.take 8192 →
      Becomes c f (.counted {
        path := f.path
        name := String.ofList (Text.decodeLossy (f.path.name?.getD []))
        extension := String.ofList (Text.decodeLossy (f.path.extension?.getD []))
        language := language.name
        size := f.size
        tally := countBytes language.constructs content })

theorem isBinary_iff {content : List UInt8} : isBinary content = true ↔ 0 ∈ content.take 8192 := by
  rw [isBinary, List.contains_iff_mem, binaryWindow]

namespace Found

variable {c : Catalog} {f : Found} {o : Outcome}

theorem exists_becomes (c : Catalog) (f : Found) : ∃ o, f.Becomes c o := by
  cases hlanguage : c.forExtension? (f.path.extensionText?.getD "") with
  | none => exact ⟨_, .unclaimed hlanguage⟩
  | some language =>
    cases hcontent : f.content with
    | error fault => exact ⟨_, .unreadable hlanguage hcontent⟩
    | ok content =>
      by_cases hzero : 0 ∈ content.take 8192
      · exact ⟨_, .binary hlanguage hcontent hzero⟩
      · exact ⟨_, .counted hlanguage hcontent hzero⟩

/-- Counting a file gives what becomes of it. -/
theorem Becomes.count_eq (h : f.Becomes c o) : f.count c = o.answer := by
  unfold count Catalog.ofPath?
  cases h with
  | unclaimed hlanguage => simp only [hlanguage, Outcome.answer]
  | unreadable hlanguage hcontent => simp only [hlanguage, hcontent, Outcome.answer]
  | binary hlanguage hcontent hzero =>
    simp only [hlanguage, hcontent, isBinary_iff.mpr hzero, if_true, Outcome.answer]
  | counted hlanguage hcontent hzero =>
    simp only [hlanguage, hcontent, isBinary_iff, hzero, if_false, Outcome.answer]
    rfl

/-- A file that fails does so under its own path. -/
theorem Becomes.path_eq {path : Path} {failure : Failure} (h : f.Becomes c (.failed path failure)) :
    path = f.path := by
  cases h with
  | unreadable => rfl

theorem Becomes.recordOf?_eq (h : f.Becomes c o) : Census.recordOf? c f = o.record? := by
  rw [Census.recordOf?, h.count_eq]
  cases o <;> rfl

theorem Becomes.failureOf?_eq (h : f.Becomes c o) : Census.failureOf? c f = o.failure? := by
  rw [Census.failureOf?, h.count_eq]
  cases o with
  | counted => rfl
  | leftOut => rfl
  | failed path failure => exact congrArg (fun p => some (p, failure)) h.path_eq.symm

/-- Only one thing becomes of a file. -/
theorem Becomes.unique {o' : Outcome} (h : f.Becomes c o) (h' : f.Becomes c o') : o = o' :=
  Outcome.eq_of_parts (h.recordOf?_eq.symm.trans h'.recordOf?_eq)
    (h.failureOf?_eq.symm.trans h'.failureOf?_eq)

end Found

/-! ## What becomes of the files -/

section Outcomes

variable {c : Catalog} {found : List Found} {outcomes : List Outcome}

theorem exists_outcomes (c : Catalog) (found : List Found) :
    ∃ outcomes, List.Forall₂ (Found.Becomes c) found outcomes := by
  induction found with
  | nil => exact ⟨[], .nil⟩
  | cons f found ih =>
    obtain ⟨outcomes, houtcomes⟩ := ih
    obtain ⟨o, ho⟩ := f.exists_becomes c
    exact ⟨o :: outcomes, .cons ho houtcomes⟩

/-- The census lists the records and the failures of the outcomes, file by file. -/
theorem lenient_eq_of_outcomes (h : List.Forall₂ (Found.Becomes c) found outcomes) :
    Census.lenient c found =
      ⟨outcomes.filterMap Outcome.record?, outcomes.filterMap Outcome.failure?⟩ := by
  induction h with
  | nil => rfl
  | cons hbecomes _ ih =>
    rw [Census.lenient, Census.mk.injEq] at ih
    rw [Census.lenient, Census.mk.injEq, List.filterMap_cons, List.filterMap_cons,
      List.filterMap_cons, List.filterMap_cons, hbecomes.recordOf?_eq, hbecomes.failureOf?_eq,
      ih.1, ih.2]
    exact ⟨rfl, rfl⟩

end Outcomes

/-! ## Records up to ties -/

/-- Lists that become one another by exchanging neighbours whose paths have the same steps. -/
inductive Exchanged : List FileRecord → List FileRecord → Prop where
  | refl (l : List FileRecord) : Exchanged l l
  | cons (r : FileRecord) {l m : List FileRecord} : Exchanged l m → Exchanged (r :: l) (r :: m)
  | swap {r s : FileRecord} (l : List FileRecord) :
      r.path.components = s.path.components → Exchanged (r :: s :: l) (s :: r :: l)
  | trans {l m n : List FileRecord} : Exchanged l m → Exchanged m n → Exchanged l n

/-- Records in the order of their paths. -/
def Ascending (records : List FileRecord) : Prop :=
  records.Pairwise fun r s => (r.path.compare s.path).isLE

theorem ascending_sortByPath (records : List FileRecord) : Ascending (sortByPath records) := by
  refine List.pairwise_mergeSort ?_ ?_ records
  · intro r s t hrs hst
    exact Std.TransCmp.isLE_trans hrs hst
  · intro r s
    exact isLE_total r.path s.path

namespace Exchanged

variable {l m n : List FileRecord} {r : FileRecord}

/-- A record moves past those it ties with. -/
theorem move (h : ∀ s ∈ m, r.path.components = s.path.components) :
    Exchanged (r :: (m ++ n)) (m ++ r :: n) := by
  induction m with
  | nil => exact .refl _
  | cons s m ih =>
    have hswap : Exchanged (r :: s :: (m ++ n)) (s :: r :: (m ++ n)) :=
      .swap _ (h s List.mem_cons_self)
    exact hswap.trans (.cons s (ih fun s hmem => h s (List.mem_cons_of_mem _ hmem)))

/-- Ascending lists of the same records differ in the order of ties only. -/
theorem of_perm (hperm : l.Perm m) (hl : Ascending l) (hm : Ascending m) : Exchanged l m := by
  -- The first record of `l` stands somewhere in `m`: what stands before it there comes no later by the
  -- order of `m` and no earlier by that of `l`.
  induction l generalizing m with
  | nil =>
    rw [List.nil_perm.mp hperm]
    exact .refl []
  | cons r l ih =>
    obtain ⟨front, back, rfl⟩ := List.append_of_mem (hperm.subset List.mem_cons_self)
    have hrest : l.Perm (front ++ back) := (hperm.trans List.perm_middle).cons_inv
    have hback : Ascending (front ++ back) :=
      hm.sublist ((List.sublist_cons_self r back).append_left front)
    have hties : ∀ s ∈ front, r.path.components = s.path.components := by
      intro s hmem
      have hafter : (r.path.compare s.path).isLE :=
        List.rel_of_pairwise_cons hl (hrest.symm.subset (List.mem_append_left back hmem))
      have hbefore : (s.path.compare r.path).isLE :=
        (List.pairwise_append.mp hm).2.2 s hmem r List.mem_cons_self
      exact Path.compare_eq_eq_iff.mp (Std.OrientedCmp.isLE_antisymm hafter hbefore)
    exact .trans (.cons r (ih hrest hl.of_cons hback)) (move hties)

/-- Where only equal records tie, there is nothing to exchange. -/
theorem eq (h : Exchanged l m)
    (hties : ∀ r ∈ l, ∀ s ∈ l, r.path.components = s.path.components → r = s) : l = m := by
  induction h with
  | refl l => rfl
  | cons r _ ih =>
    rw [ih fun r hr s hs => hties r (List.mem_cons_of_mem _ hr) s (List.mem_cons_of_mem _ hs)]
  | swap l htie =>
    rw [hties _ List.mem_cons_self _ (List.mem_cons_of_mem _ List.mem_cons_self) htie]
  | trans h₁ _ ih₁ ih₂ =>
    have heq := ih₁ hties
    exact heq.trans (ih₂ (heq ▸ hties))

end Exchanged

/-! ## The census -/

namespace Census

variable {c : Catalog} {s : Census} {found found' : List Found} {walkFailure : Option Failure}

/-- Each file found is accounted for once: its outcome stands among the records or the failures, or it
has no part in the census; nothing else does, but for what ended the walk. -/
def Accounts (s : Census) (c : Catalog) (found : List Found) (walkFailure : Option Failure) : Prop :=
  ∃ outcomes, List.Forall₂ (Found.Becomes c) found outcomes ∧
    s.records.Perm (outcomes.filterMap Outcome.record?) ∧
    s.failures.Perm (outcomes.filterMap Outcome.failure? ++
      walkFailure.toList.map fun failure => (walkPath, failure))

/-- Paths that compare as equal are spelled alike. -/
def SpelledAlike (found : List Found) : Prop :=
  ∀ f ∈ found, ∀ g ∈ found, f.path.compare g.path = .eq → f.path = g.path

/-- The files do not change during the walk: a path that is delivered twice brings the same file. -/
def Fixed (found : List Found) : Prop :=
  ∀ f ∈ found, ∀ g ∈ found, f.path = g.path → f = g

/-- What a lenient run gives. -/
def ofFound (c : Catalog) (found : List Found) (walkFailure : Option Failure) : Census :=
  sorted ⟨(lenient c found).records,
    (lenient c found).failures ++ walkFailure.toList.map fun failure => (walkPath, failure)⟩

theorem collect_eq_ofFound : collect false c found walkFailure = .ok (ofFound c found walkFailure) := rfl

theorem ofFound_accounts : (ofFound c found walkFailure).Accounts c found walkFailure := by
  obtain ⟨outcomes, houtcomes⟩ := exists_outcomes c found
  refine ⟨outcomes, houtcomes, ?_, ?_⟩
  · rw [ofFound, lenient_eq_of_outcomes houtcomes]
    exact List.mergeSort_perm _ _
  · rw [ofFound, lenient_eq_of_outcomes houtcomes]
    exact .refl _

theorem perm_records_ofFound (h : found.Perm found') :
    (ofFound c found walkFailure).records.Perm (ofFound c found' walkFailure).records :=
  ((List.mergeSort_perm _ _).trans (h.filterMap _)).trans (List.mergeSort_perm _ _).symm

theorem perm_failures_ofFound (h : found.Perm found') :
    (ofFound c found walkFailure).failures.Perm (ofFound c found' walkFailure).failures :=
  (h.filterMap _).append_right _

theorem exchanged_ofFound (h : found.Perm found') :
    Exchanged (ofFound c found walkFailure).records (ofFound c found' walkFailure).records :=
  .of_perm (perm_records_ofFound h) (ascending_sortByPath _) (ascending_sortByPath _)

/-- A record is that of a file with its path. -/
theorem exists_of_mem_records {r : FileRecord} (h : r ∈ (ofFound c found walkFailure).records) :
    ∃ f ∈ found, recordOf? c f = some r ∧ f.path = r.path := by
  obtain ⟨f, hmem, hrecord⟩ := List.mem_filterMap.mp (List.mem_mergeSort.mp h)
  refine ⟨f, hmem, hrecord, ?_⟩
  obtain ⟨o, hbecomes⟩ := f.exists_becomes c
  rw [hbecomes.recordOf?_eq] at hrecord
  cases hbecomes with
  | counted => cases hrecord; rfl
  | unclaimed | unreadable | binary => cases hrecord

/-- Records of paths that compare as equal are equal, if such paths bring the same file. -/
theorem eq_of_tie (hspelled : SpelledAlike found) (hfixed : Fixed found) {r s : FileRecord}
    (hr : r ∈ (ofFound c found walkFailure).records) (hs : s ∈ (ofFound c found walkFailure).records)
    (htie : r.path.components = s.path.components) : r = s := by
  obtain ⟨f, hf, hfr, hfpath⟩ := exists_of_mem_records hr
  obtain ⟨g, hg, hgs, hgpath⟩ := exists_of_mem_records hs
  rw [← hfpath, ← hgpath] at htie
  have hpath : f.path = g.path := hspelled f hf g hg (Path.compare_eq_eq_iff.mpr htie)
  have hfg : f = g := hfixed f hf g hg hpath
  rw [hfg, hgs] at hfr
  exact (Option.some.inj hfr).symm

/-- **The order of delivery does not matter.** The census of files accounts for each of them once, with
its records in the order of paths. Delivered in another order, the files have the same failures, and the
same records up to exchanging ties: the very same list if paths that compare as equal are spelled alike. -/
theorem delivery_order (c : Catalog) (found : List Found) (walkFailure : Option Failure) :
    (∀ f : Found, ∃! o, f.Becomes c o) ∧
    ∃ s, collect false c found walkFailure = .ok s ∧ s.Accounts c found walkFailure ∧
      Ascending s.records ∧
      ∀ found', found.Perm found' →
        ∃ s', collect false c found' walkFailure = .ok s' ∧ s.failures.Perm s'.failures ∧
          Exchanged s.records s'.records ∧
          (SpelledAlike found → Fixed found → s.records = s'.records) := by
  refine ⟨fun f => ?_, _, collect_eq_ofFound, ofFound_accounts, ascending_sortByPath _, ?_⟩
  · obtain ⟨o, ho⟩ := f.exists_becomes c
    exact ⟨o, ho, fun o' ho' => ho'.unique ho⟩
  · intro found' hperm
    refine ⟨_, collect_eq_ofFound, perm_failures_ofFound hperm, exchanged_ofFound hperm, ?_⟩
    intro hspelled hfixed
    exact (exchanged_ofFound hperm).eq fun r hr s hs => eq_of_tie hspelled hfixed hr hs

/-- A script that two roots lead to, and one below a directory that comes first in the order of paths; one
that cannot be read, one with a zero byte, and a file in no language. -/
theorem delivery_order_two_roots :
    let c := Catalog.empty.register ⟨"Shell", ["sh"], [.lineComment ['#']]⟩
    let found : List Found := [⟨.ofString "u/b.SH", 6, .ok [0x23, 0x0A, 0x20, 0x0A, 0x6C, 0x73]⟩,
      ⟨.ofString "d.sh", 7, .error .permissionDenied⟩, ⟨.ofString "n.txt", 1, .ok [0x78]⟩,
      ⟨.ofString "e.sh", 2, .ok [0x78, 0x00]⟩, ⟨.ofString "a/z.sh", 1, .ok [0x78]⟩,
      ⟨.ofString "u/b.SH", 6, .ok [0x23, 0x0A, 0x20, 0x0A, 0x6C, 0x73]⟩]
    let records : List FileRecord := [⟨.ofString "a/z.sh", "z.sh", "sh", "Shell", 1, ⟨1, 1, 0, 0⟩⟩,
      ⟨.ofString "u/b.SH", "b.SH", "SH", "Shell", 6, ⟨3, 1, 1, 1⟩⟩,
      ⟨.ofString "u/b.SH", "b.SH", "SH", "Shell", 6, ⟨3, 1, 1, 1⟩⟩]
    let failures : List (Path × Failure) :=
      [(.ofString "d.sh", .unreadable (.ofString "d.sh") .permissionDenied)]
    found.Perm found.reverse ∧ SpelledAlike found ∧ Fixed found ∧
      collect false c found none = .ok ⟨records, failures⟩ ∧ Ascending records ∧
      ∃ s', collect false c found.reverse none = .ok s' ∧ s'.records = records ∧
        failures.Perm s'.failures := by
  intro c found records failures
  have hperm : found.Perm found.reverse := (List.reverse_perm found).symm
  have hspelled : SpelledAlike found := by
    unfold SpelledAlike
    decide
  have hfixed : Fixed found := by
    unfold Fixed
    decide
  have hlenient : lenient c found = ⟨[records[1], records[0], records[2]], failures⟩ := by decide +kernel
  have hsorted : records = sortByPath [records[1], records[0], records[2]] := by
    have hascending : Ascending records := by
      unfold Ascending
      decide
    have hperm : records.Perm (sortByPath [records[1], records[0], records[2]]) :=
      (List.Perm.swap _ _ _).trans (List.mergeSort_perm _ _).symm
    exact (Exchanged.of_perm hperm hascending (ascending_sortByPath _)).eq (by decide)
  have hcollect : collect false c found none = .ok ⟨records, failures⟩ := by
    rw [collect_eq_ofFound, ofFound, hlenient, sorted, ← hsorted]
    rfl
  obtain ⟨-, s, hs, -, hascending, hother⟩ := delivery_order c found none
  obtain rfl : s = ⟨records, failures⟩ := Except.ok.inj (hs.symm.trans hcollect)
  obtain ⟨s', hs', hfailures, -, hrecords⟩ := hother found.reverse hperm
  exact ⟨hperm, hspelled, hfixed, hs, hascending, s', hs', (hrecords hspelled hfixed).symm, hfailures⟩

end Census

end LineCensus
