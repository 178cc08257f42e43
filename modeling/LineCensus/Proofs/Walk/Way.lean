import LineCensus.Proofs.Cutting
import LineCensus.Proofs.Traversal
import LineCensus.Proofs.Walk.Extensions

/-!
# `Proofs.Walk.Way` — the way from a directory down to a file

A file below a directory is reached along the names of entries, each of which is asked before the next one is
seen: all but the last as directories, the last one as a file. That an entry passes is all that this module
knows of the question (`FileTree.Way`).

The names of a way are known from the path that it leads to, as long as no name is empty or holds a slash
(`Node.IsNamed`). Then a path beneath that of an entry is reached through this entry and not around it
(`FileTree.Way.passes_of_beneath`).

## Contents

* `Path.IsName`, `Path.Beneath.exists_tail` — names, and the bytes of a path that lies beneath another;
* `Node.IsNamed`, `FileTree.isName_of_mem_entries` — trees where every entry has a name;
* `FileTree.Way` — ways on which each entry passes, and what lies on them.
-/

namespace LineCensus

namespace Path

variable {p q : Path} {name more : List UInt8} {names : List (List UInt8)}

/-- A name that an entry of a directory may have. -/
def IsName (name : List UInt8) : Prop := name ≠ [] ∧ slash ∉ name

instance : DecidablePred IsName := fun name => inferInstanceAs (Decidable (name ≠ [] ∧ slash ∉ name))

/-- What stands before the names of entries is the same for all of them. -/
theorem exists_lead (p : Path) : ∃ lead, ∀ name, (p.join name).bytes = lead ++ name := by
  by_cases h : (p.bytes.isEmpty || p.bytes.getLast? == some slash) = true
  · exact ⟨p.bytes, fun name => by rw [join, if_pos h]⟩
  · exact ⟨p.bytes ++ [slash], fun name => by rw [join, if_neg h, List.append_assoc, List.singleton_append]⟩

/-- Behind a name comes a slash. -/
theorem join_join_bytes (hname : IsName name) :
    ((p.join name).join more).bytes = (p.join name).bytes ++ slash :: more := by
  obtain ⟨lead, hlead⟩ := p.exists_lead
  have hlast : name.getLast? ≠ some slash := fun h => hname.2 (List.mem_of_getLast? h)
  rw [join, hlead, if_neg (by simp [hname.1, hlast])]

theorem bytes_prefix_foldl_join (p : Path) (names : List (List UInt8)) :
    p.bytes <+: (names.foldl join p).bytes := by
  induction names generalizing p with
  | nil => exact List.prefix_refl _
  | cons name names ih =>
    have hjoin : p.bytes <+: (p.join name).bytes := by
      rw [join]
      split
      · exact List.prefix_append _ _
      · exact List.prefix_append _ _
    exact hjoin.trans (ih (p.join name))

/-- What lies beneath an entry has the path of the entry before a slash. -/
theorem Beneath.exists_tail (hname : IsName name) (h : (p.join name).Beneath q) :
    ∃ tail, q.bytes = (p.join name).bytes ++ slash :: tail := by
  obtain ⟨names, hnonempty, rfl⟩ := h
  obtain ⟨first, rest, rfl⟩ := List.exists_cons_of_ne_nil hnonempty
  obtain ⟨tail, htail⟩ := bytes_prefix_foldl_join ((p.join name).join first) rest
  rw [join_join_bytes hname] at htail
  exact ⟨first ++ tail, by rw [List.foldl_cons, ← htail, List.append_assoc, List.cons_append]⟩

theorem Beneath.of_foldl (h : (names.foldl join p).Beneath q) : p = names.foldl join p ∨ p.Beneath q := by
  induction names generalizing p with
  | nil => exact .inl rfl
  | cons name names ih =>
    obtain heq | hbeneath := ih h
    · rw [List.foldl_cons, ← heq] at h
      exact .inr h.of_join
    · exact .inr hbeneath.of_join

/-- Texts without a slash are known from what stands before the first slash. -/
theorem eq_of_append_slash_eq {a b s t : List UInt8} (ha : slash ∉ a) (hb : slash ∉ b)
    (h : a ++ slash :: s = b ++ slash :: t) : a = b := by
  rw [← takeWhile_bne_append ha s, h, takeWhile_bne_append hb]

end Path

/-! ## Trees with names -/

/-- Every entry has a name, here and below. -/
inductive Node.IsNamed : Node → Prop where
  | file {size : Nat} {content : Except ReadFault (List UInt8)} : IsNamed (.file size content)
  | link {target : List UInt8} : IsNamed (.link target)
  | directory {entries : List (List UInt8 × Node)} :
      (∀ entry ∈ entries, Path.IsName entry.1) → (∀ entry ∈ entries, IsNamed entry.2) →
      IsNamed (.directory entries)

theorem Node.IsNamed.at? {n m : Node} {l : Location} (h : n.IsNamed) (hat : n.at? l = some m) : m.IsNamed := by
  induction l generalizing n with
  | nil =>
    cases n <;> exact Option.some.inj hat ▸ h
  | cons name l ih =>
    cases h with
    | file => cases hat
    | link => cases hat
    | directory hnames hentries =>
      obtain ⟨next, hlookup, hrest⟩ := Option.bind_eq_some_iff.mp hat
      obtain ⟨before, after, rfl, -⟩ := List.lookup_eq_some_iff.mp hlookup
      exact ih (hentries (name, next) (by simp)) hrest

/-- The entries of a directory have names. -/
theorem FileTree.isName_of_mem_entries {t : FileTree} {p : Path} {entry : List UInt8 × Node} (h : t.top.IsNamed)
    (hmem : entry ∈ t.entries p) : Path.IsName entry.1 := by
  rw [entries] at hmem
  split at hmem
  · rename_i entries hnode
    obtain ⟨⟨l, n⟩, hlocate, rfl⟩ := exists_of_map_eq_ok hnode
    rw [locate] at hlocate
    split at hlocate
    · cases hlocate
    · rename_i l' hresolve
      cases hat : t.top.at? l' with
      | none =>
        rw [hat] at hlocate
        cases hlocate
      | some n =>
        rw [hat] at hlocate
        cases hlocate
        cases h.at? hat with
        | directory hnames => exact hnames entry hmem
  · cases hmem

/-! ## Ways -/

namespace FileTree

/-- A way from a directory down to a file, along the names of entries. Each entry passes, the last one as a
file and those before it as directories. -/
inductive Way (t : FileTree) (passes : Path → Bool → Prop) : Path → List (List UInt8) → Path → Prop where
  | file {p : Path} {name : List UInt8} {n : Node} :
      (name, n) ∈ t.entries p → passes (p.join name) false → Way t passes p [name] (p.join name)
  | directory {p q : Path} {name : List UInt8} {names : List (List UInt8)} {n : Node} :
      (name, n) ∈ t.entries p → passes (p.join name) true → Way t passes (p.join name) names q →
      Way t passes p (name :: names) q

namespace Way

variable {t : FileTree} {passes weaker : Path → Bool → Prop} {p q : Path} {names : List (List UInt8)}

theorem mono (himp : ∀ path isDirectory, passes path isDirectory → weaker path isDirectory)
    (h : t.Way passes p names q) : t.Way weaker p names q := by
  induction h with
  | file hmem hpasses => exact .file hmem (himp _ _ hpasses)
  | directory hmem hpasses _ ih => exact .directory hmem (himp _ _ hpasses) ih

/-- The file at the end passes as a file. -/
theorem passes_file (h : t.Way passes p names q) : passes q false := by
  induction h with
  | file _ hpasses => exact hpasses
  | directory _ _ _ ih => exact ih

theorem beneath (h : t.Way passes p names q) : p.Beneath q := by
  induction h with
  | file => exact Path.beneath_join _ _
  | directory _ _ _ ih => exact ih.of_join

/-- **An entry with something beneath it on a way is on this way**, and passes as a directory. The induction
is on the names that lead to the entry; as the tree has names, each is the next one of the way. -/
theorem passes_of_beneath (htree : t.top.IsNamed) (h : t.Way passes p names q) {front : List (List UInt8)}
    (hnonempty : front ≠ []) (hfront : ∀ name ∈ front, Path.IsName name)
    (hbeneath : (front.foldl Path.join p).Beneath q) : passes (front.foldl Path.join p) true := by
  induction front generalizing p names with
  | nil => exact absurd rfl hnonempty
  | cons name' front ih =>
    obtain ⟨hname', hrests⟩ := List.forall_mem_cons.mp hfront
    obtain ⟨lead, hlead⟩ := p.exists_lead
    rw [List.foldl_cons] at hbeneath ⊢
    have hentry : (p.join name').Beneath q := by
      obtain heq | hentry := hbeneath.of_foldl
      · rwa [← heq] at hbeneath
      · exact hentry
    obtain ⟨tail', htail'⟩ := hentry.exists_tail hname'
    cases h with
    | @file _ name n hmem hpasses =>
      -- the name of a file has no slash to go on behind
      have hname := isName_of_mem_entries htree hmem
      rw [hlead, hlead, List.append_assoc] at htail'
      have hslash : Path.slash ∈ name := List.append_cancel_left htail' ▸ by simp
      exact absurd hslash hname.2
    | @directory _ _ name names n hmem hpasses hrest =>
      have hname := isName_of_mem_entries htree hmem
      obtain ⟨tail, htail⟩ := hrest.beneath.exists_tail hname
      have hsame : name = name' := by
        rw [htail, hlead, hlead, List.append_assoc, List.append_assoc] at htail'
        exact Path.eq_of_append_slash_eq hname.2 hname'.2 (List.append_cancel_left htail')
      subst hsame
      cases front with
      | nil => exact hpasses
      | cons second front => exact ih hrest (List.cons_ne_nil _ _) hrests hbeneath

end Way

end FileTree

end LineCensus
