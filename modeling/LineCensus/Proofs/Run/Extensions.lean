import LineCensus.Proofs.Run.Strictness
import LineCensus.Proofs.Walk.Extensions
import Mathlib.Tactic.Choose

/-!
# `Proofs.Run.Extensions` — a run with a filter lists what passes

What becomes of a file does not depend on the filter, and a walk with a filter delivers what the walk without
one does, less what does not pass. So a lenient run with a filter lists what becomes of the deliveries that
pass, where the run without lists what becomes of all of them.

## Contents

* `Census.Lists` — the census of some deliveries, each with what becomes of it (`Census.lists_ofFound`);
* `Run.exists_deliveries` — what is handed over with a filter and without;
* `Run.filter_commutes_with_walk` — walks and lenient runs, with a filter and without.
-/

namespace LineCensus

namespace Census

variable {c : Catalog} {outcomes : List (Walk.Delivery × Outcome)}

/-- A census of deliveries, each with what becomes of it: the records of those that are counted, in the
order of their paths, and the failures of those that fail, with what ended the walk, if anything did. -/
structure Lists (s : Census) (outcomes : List (Walk.Delivery × Outcome)) (walkFailure : Option Failure) :
    Prop where
  records : s.records.Perm (outcomes.filterMap fun entry => entry.2.record?)
  ascending : Ascending s.records
  failures : s.failures.Perm ((outcomes.filterMap fun entry => entry.2.failure?) ++
    walkFailure.toList.map fun failure => (walkPath, failure))

/-- A delivery that is counted is listed. -/
theorem Lists.mem_records {s : Census} {walkFailure : Option Failure} {d : Walk.Delivery} {o : Outcome}
    {record : FileRecord} (h : s.Lists outcomes walkFailure) (hmem : (d, o) ∈ outcomes)
    (ho : o = .counted record) : record ∈ s.records := by
  rw [h.records.mem_iff]
  exact List.mem_filterMap.mpr ⟨(d, o), hmem, by rw [ho]; rfl⟩

/-- Something becomes of each delivery. -/
theorem exists_outcomes_of_deliveries (c : Catalog) (entries : List Walk.Delivery) :
    ∃ outcomes : List (Walk.Delivery × Outcome),
      outcomes.map Prod.fst = entries ∧ ∀ entry ∈ outcomes, entry.1.file.Becomes c entry.2 := by
  choose outcome houtcome using fun d : Walk.Delivery => d.file.exists_becomes c
  refine ⟨entries.map fun d => (d, outcome d), ?_, ?_⟩
  · rw [List.map_map]
    exact List.map_id entries
  · intro entry hentry
    obtain ⟨d, -, rfl⟩ := List.mem_map.mp hentry
    exact houtcome d

/-- What a lenient run gives for some deliveries, in whatever order their files come. -/
theorem lists_ofFound {delivery : List Found} (h : ∀ entry ∈ outcomes, entry.1.file.Becomes c entry.2)
    (hperm : (outcomes.map fun entry => entry.1.file).Perm delivery) (walkFailure : Option Failure) :
    (ofFound c delivery walkFailure).Lists outcomes walkFailure := by
  have hrecords : (outcomes.map fun entry => entry.1.file).filterMap (recordOf? c) =
      outcomes.filterMap fun entry => entry.2.record? := by
    rw [List.filterMap_map]
    exact List.filterMap_congr fun entry hentry => (h entry hentry).recordOf?_eq
  have hfailures : (outcomes.map fun entry => entry.1.file).filterMap (failureOf? c) =
      outcomes.filterMap fun entry => entry.2.failure? := by
    rw [List.filterMap_map]
    exact List.filterMap_congr fun entry hentry => (h entry hentry).failureOf?_eq
  constructor
  · rw [← hrecords]
    exact (List.mergeSort_perm _ _).trans (hperm.filterMap _).symm
  · exact ascending_sortByPath _
  · rw [← hfailures]
    exact ((hperm.filterMap _).symm).append_right _

end Census

namespace Run

variable {t : FileTree} {config : Config}

/-- What is handed over with a filter is what is handed over without, less what does not pass; and without a
filter it is what the roots lead to, unless the walk is refused. -/
theorem exists_deliveries (t : FileTree) (o : WalkOptions) (filter : ExtensionFilter) :
    ∃ (entries : List Walk.Delivery) (failure : Option Failure),
      handedOver t o {} = (entries.map Walk.Delivery.file, failure) ∧
        handedOver t o filter = ((entries.filter (·.passes filter)).map Walk.Delivery.file, failure) ∧
        (∀ d ∈ entries, d.root ∈ o.roots ∧ d.isRoot = !t.isDirectory d.root ∧ d.Placed) ∧
        (failure ≠ none → entries = []) ∧
        (failure = none → ∃ overrides,
          (∀ first ∈ o.roots.head?, Overrides.build first o.includes o.excludes = .ok overrides) ∧
          ∀ d, d ∈ entries ↔
            d.root ∈ o.roots ∧ (Walk.mk t o {} overrides).LeadsTo d.root d.isRoot d.file) := by
  obtain ⟨failure, hfails⟩ | ⟨overrides, hbuild, hdelivers⟩ := Walk.fails_or_delivers t o
  · exact ⟨[], some failure, handedOver_of_error (hfails {}), handedOver_of_error (hfails filter), by simp,
      fun _ => rfl, nofun⟩
  · refine ⟨(Walk.mk t o {} overrides).deliveries, none, handedOver_of_ok (hdelivers {}), ?_, ?_,
      fun h => absurd rfl h, fun _ => ⟨overrides, hbuild, fun d => ?_⟩⟩
    · rw [handedOver_of_ok (hdelivers filter), Walk.deliveries_eq_filter]
      rfl
    · intro d hd
      exact Walk.placed_of_mem_deliveries hd
    · have hpasses : d.passes {} = true := by
        rw [Walk.Delivery.passes, ExtensionFilter.accepts_empty, Bool.or_true]
      rw [Walk.mem_deliveries_iff]
      exact and_congr_right fun _ => and_iff_left hpasses

/-- **Filtering the walk is filtering afterwards.** A directory is entered whatever the filter is, so what is
found below a directory is what lies there and has an extension that is accepted, and from a root is found
what it leads to, the root itself also if its extension is not. So what a walk hands over with a filter is what
it hands over without one, less the files found below a root whose extension is not accepted; and the walk is
refused with a filter as it is without. What becomes of a delivery does not depend on the filter either: a
lenient run lists what becomes of those that pass, where a run without a filter lists what becomes of all.
Where there are no languages, all runs fail alike. -/
theorem filter_commutes_with_walk (t : FileTree) (config : Config) :
    (∀ (filter : ExtensionFilter) (extension : Option String),
      filter.accepts extension = true ↔ filter.Accepts extension) ∧
    (∀ (w : Walk) (start : Start) (p q : Walk.Place), w.Enters start p q →
      ∀ filter, { w with filter }.Enters start p q ∧
        ∀ levels, ∀ f ∈ { w with filter }.filesBelow start levels q,
          f ∈ { w with filter }.filesBelow start (levels + 1) p) ∧
    (∀ (w : Walk) (filter : ExtensionFilter) (start : Start) (levels : Nat) (p : Walk.Place) (f : Found),
      f ∈ { w with filter }.filesBelow start levels p ↔
        w.Below start levels p f ∧ filter.Accepts f.path.extensionText?) ∧
    (∀ (w : Walk) (filter : ExtensionFilter) (root : Path) (f : Found),
      f ∈ { w with filter }.fromRoot root ↔
        w.LeadsTo root true f ∨ w.LeadsTo root false f ∧ filter.Accepts f.path.extensionText?) ∧
    (∀ failure, buildCatalog t config = .error failure → ∀ filter answer,
      Answers t { config with filter, strict := false } answer ↔ answer = .error failure) ∧
    ∃ (entries : List Walk.Delivery) (failure : Option Failure),
      handedOver t config.walk {} = (entries.map Walk.Delivery.file, failure) ∧
      handedOver t config.walk config.filter =
        ((entries.filter (·.passes config.filter)).map Walk.Delivery.file, failure) ∧
      (∀ d ∈ entries, d.root ∈ config.walk.roots ∧ d.isRoot = !t.isDirectory d.root ∧ d.Placed) ∧
      (failure ≠ none → entries = []) ∧
      (failure = none → ∃ overrides,
        (∀ first ∈ config.walk.roots.head?,
          Overrides.build first config.walk.includes config.walk.excludes = .ok overrides) ∧
        ∀ d, d ∈ entries ↔ d.root ∈ config.walk.roots ∧
          (Walk.mk t config.walk {} overrides).LeadsTo d.root d.isRoot d.file) ∧
      ∀ c, buildCatalog t config = .ok c → ∃ outcomes : List (Walk.Delivery × Outcome),
        outcomes.map Prod.fst = entries ∧ (∀ entry ∈ outcomes, entry.1.file.Becomes c entry.2) ∧
        ∀ filtered whole, Answers t { config with strict := false } filtered →
          Answers t { config with filter := {}, strict := false } whole →
            ∃ s s', filtered = .ok s ∧ whole = .ok s' ∧
              s.Lists (outcomes.filter (·.1.passes config.filter)) failure ∧ s'.Lists outcomes failure := by
  refine ⟨fun filter extension => ExtensionFilter.accepts_iff, ?_, ?_, ?_,
    fun failure hbuild filter answer => answers_iff_of_unbuilt hbuild, ?_⟩
  · intro w start p q henters filter
    have henters' : { w with filter }.Enters start p q := henters.with_filter filter
    exact ⟨henters', fun levels f hf => Walk.mem_filesBelow_succ_iff.mpr (.inr ⟨q, henters', hf⟩)⟩
  · intro w filter start levels p f
    rw [← ExtensionFilter.accepts_iff]
    exact Walk.mem_filesBelow_iff
  · intro w filter root f
    rw [← ExtensionFilter.accepts_iff]
    exact Walk.mem_fromRoot_iff filter
  · obtain ⟨entries, failure, hwhole, hfiltered, hplaced, hrefused, hdelivered⟩ :=
      exists_deliveries t config.walk config.filter
    refine ⟨entries, failure, hwhole, hfiltered, hplaced, hrefused, hdelivered, fun c hbuild => ?_⟩
    obtain ⟨outcomes, rfl, hbecomes⟩ := Census.exists_outcomes_of_deliveries c entries
    refine ⟨outcomes, rfl, hbecomes, ?_⟩
    intro filtered whole hanswer hanswer'
    have hbuild' : buildCatalog t { config with filter := {} } = .ok c := hbuild
    obtain ⟨delivery, hperm, rfl⟩ := hanswer.exists_delivery hbuild
    obtain ⟨delivery', hperm', rfl⟩ := Answers.exists_delivery hbuild' hanswer'
    rw [hfiltered] at hperm ⊢
    rw [hwhole] at hperm' ⊢
    refine ⟨_, _, Census.collect_eq_ofFound, Census.collect_eq_ofFound, ?_, ?_⟩
    · refine Census.lists_ofFound ?_ ?_ failure
      · exact fun entry hentry => hbecomes entry (List.mem_of_mem_filter hentry)
      · rw [List.filter_map, List.map_map] at hperm
        exact hperm
    · refine Census.lists_ofFound hbecomes ?_ failure
      rw [List.map_map] at hperm'
      exact hperm'

/-- A directory whose name would be rejected is entered and the script in it delivered and counted, the file
beside it is delivered without a filter only, and a root is delivered whatever its name is. -/
theorem filter_commutes_with_walk_rejected_name :
    let file : Node := .ofBytes [0x78]
    let inner : List (List UInt8 × Node) := [(fileName "a.rs", file)]
    let outer : List (List UInt8 × Node) := [(fileName "b.py", file), (fileName "d.py", .directory inner)]
    let t : FileTree :=
      { top := .directory [(fileName "e", .directory outer), (fileName "r.py", file)] }
    let filter : ExtensionFilter := { allow := ["rs"] }
    let w : Walk := ⟨t, { roots := [.ofString "e", .ofString "r.py"] }, {}, ⟨⟨.ofString "e", []⟩⟩⟩
    let start := Start.of t true (.ofString "e") [fileName "e"]
    let p : Walk.Place := ⟨[], .ofString "e", [fileName "e"]⟩
    let q : Walk.Place := ⟨p.chain w, .ofString "e/d.py", [fileName "e", fileName "d.py"]⟩
    let config : Config := { walk := w.options, filter }
    let script : Found := ⟨.ofString "e/d.py/a.rs", 1, .ok [0x78]⟩
    let beside : Found := ⟨.ofString "e/b.py", 1, .ok [0x78]⟩
    let single : Found := ⟨.ofString "r.py", 1, .ok [0x78]⟩
    ¬ filter.Accepts (Path.ofString "e/d.py").extensionText? ∧ w.Enters start p q ∧
      { w with filter }.Enters start p q ∧ script ∈ { w with filter }.filesBelow start 2 p ∧
      handedOver t config.walk {} = ([beside, script, single], none) ∧
      handedOver t config.walk filter = ([script, single], none) ∧
      w.LeadsTo (.ofString "e") false script ∧ w.LeadsTo (.ofString "r.py") true single ∧
      (∃ c, buildCatalog t config = .ok c) ∧
      ∃ s, run t { config with strict := false } = .ok s ∧
        ⟨.ofString "e/d.py/a.rs", "a.rs", "rs", "Rust", 1, ⟨1, 1, 0, 0⟩⟩ ∈ s.records := by
  intro file inner outer t filter w start p q config script beside single
  obtain ⟨haccepts, hdirectories, -, hroots, -, entries, failure, hwhole, -, -, -, hdelivered, hruns⟩ :=
    filter_commutes_with_walk t config
  have hpy : ¬ filter.Accepts (Path.ofString "e/d.py").extensionText? := by
    rw [← haccepts]
    decide +kernel
  have henters : w.Enters start p q :=
    .directory (fileName "d.py") inner (List.mem_cons_of_mem _ List.mem_cons_self) (by decide +kernel)
  obtain ⟨henters', hbelow⟩ := hdirectories w start p q henters filter
  have hinner : { w with filter }.filesBelow start 1 q = [script] := by decide +kernel
  have hscript : script ∈ { w with filter }.filesBelow start 1 q := by
    rw [hinner]
    exact List.mem_singleton_self _
  have hhanded : handedOver t config.walk {} = ([beside, script, single], none) := by decide +kernel
  -- both come from their roots without a filter, the script from below and the other one as the root
  have hleads : w.LeadsTo (.ofString "e") false script := by
    have hfrom : w.fromRoot (.ofString "e") = [beside, script] := by decide +kernel
    have hfound : script ∈ w.fromRoot (.ofString "e") := by
      rw [hfrom]
      exact List.mem_cons_of_mem _ List.mem_cons_self
    obtain hroot | ⟨hbelow, -⟩ := (hroots w {} _ _).mp hfound
    · exact absurd hroot.isRoot_eq (by decide +kernel)
    · exact hbelow
  have hleads' : w.LeadsTo (.ofString "r.py") true single := by
    have hfrom : w.fromRoot (.ofString "r.py") = [single] := by decide +kernel
    have hfound : single ∈ w.fromRoot (.ofString "r.py") := by
      rw [hfrom]
      exact List.mem_singleton_self _
    obtain hroot | ⟨hbelow, -⟩ := (hroots w {} _ _).mp hfound
    · exact hroot
    · exact absurd hbelow.isRoot_eq (by decide +kernel)
  -- the script is among the deliveries, and is counted
  obtain ⟨-, hnone⟩ := Prod.mk.inj (hwhole.symm.trans hhanded)
  obtain ⟨overrides, hbuild, hmem⟩ := hdelivered hnone
  obtain rfl : ⟨⟨.ofString "e", []⟩⟩ = overrides := Except.ok.inj (hbuild _ rfl)
  have hdelivery : ⟨.ofString "e", false, script⟩ ∈ entries := (hmem _).mpr ⟨List.mem_cons_self, hleads⟩
  obtain ⟨c, hc⟩ : ∃ c, buildCatalog t config = .ok c := ⟨_, rfl⟩
  have hrust : (c.forExtension? "rs").map (fun l => (l.name, countBytes l.constructs [0x78])) =
      some ("Rust", ⟨1, 1, 0, 0⟩) := by
    obtain rfl := Except.ok.inj hc
    decide +kernel
  obtain ⟨rust, hlanguage, hfigures⟩ := Option.map_eq_some_iff.mp hrust
  obtain ⟨hname, htally⟩ := Prod.mk.inj hfigures
  obtain ⟨outcomes, rfl, hbecomes, hanswers⟩ := hruns c hc
  obtain ⟨s, s', hs, -, hlists, -⟩ := hanswers _ _ (answers_run t _) (answers_run t _)
  obtain ⟨⟨d, o⟩, hentry, rfl⟩ := List.mem_map.mp hdelivery
  have hcounted : o = .counted ⟨.ofString "e/d.py/a.rs", "a.rs", "rs", "Rust", 1, ⟨1, 1, 0, 0⟩⟩ := by
    rw [← hname, ← htally]
    exact (hbecomes _ hentry).unique (.counted hlanguage rfl (by decide))
  have hfiltered : handedOver t config.walk filter = ([script, single], none) := by decide +kernel
  have hpasses : Walk.Delivery.passes filter ⟨.ofString "e", false, script⟩ = true := by decide +kernel
  exact ⟨hpy, henters, henters', hbelow 1 script hscript, hhanded, hfiltered, hleads, hleads', ⟨c, hc⟩, s, hs,
    hlists.mem_records (List.mem_filter.mpr ⟨hentry, hpasses⟩) hcounted⟩

end Run

end LineCensus
