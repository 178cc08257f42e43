import LineCensus.Proofs.Ignore.Override
import LineCensus.Proofs.Walk.Way

/-!
# `Proofs.Walk.Overrides` — what the patterns of a walk leave out and let through

The patterns of a walk are asked about each entry below a root before anything else is. An entry that a
pattern to leave out holds of is passed over then, whatever else holds of it; a directory that is passed over
is not entered, and the question does not arise for what is below it. So a file is found by a way on which
every entry passes (`Walk.exists_way_of_mem_filesBelow`, by induction on the levels below a directory), and
the file at its end is one that the patterns to look at let through, if there are any.

All patterns see a path relative to the first root, also below another one. Roots are not asked.

## Contents

* `Walk.lineHolds`, `WalkOptions.Excludes` — what holds of an entry;
* `Walk.exists_way_of_mem_filesBelow`, `Walk.exists_way_of_mem_deliveries` — the way to a file that is found;
* `Walk.deliveries_follow_overrides` — patterns to leave out win, and the others let through.
-/

namespace LineCensus

/-- Whether a line of patterns holds of an entry, as a walk with a first root puts it to them. -/
def Walk.lineHolds (first : Path) (line : List Char) (path : Path) (isDirectory : Bool) : Bool :=
  Overrides.lineHolds first line ⟨RuleSet.bare path.bytes⟩ isDirectory

/-- Some pattern to leave out holds of an entry. -/
def WalkOptions.Excludes (o : WalkOptions) (first path : Path) (isDirectory : Bool) : Prop :=
  ∃ pattern ∈ o.excludes, Walk.lineHolds first ('!' :: pattern) path isDirectory = true

namespace Walk

variable {w : Walk} {start : Start} {chain : List Visited} {levels : Nat} {f : Found} {p : Place} {d : Delivery}
  {first path : Path} {rest : List Path} {isDirectory : Bool}

/-- An entry that is not passed over is one that the patterns do not leave out: they are asked first. -/
theorem overrideVerdict?_of_not_skips (h : w.skips start chain path isDirectory = false) :
    w.overrideVerdict? path isDirectory ≠ some .skip := by
  intro hverdict
  simp [skips, hverdict] at h

/-- **The way to a file that is found.** The patterns leave out neither the file nor a directory that it is
found through. -/
theorem exists_way_of_mem_filesBelow (h : f ∈ w.filesBelow start levels p) :
    ∃ names, w.tree.Way (fun path isDirectory => w.overrideVerdict? path isDirectory ≠ some .skip)
      p.path names f.path := by
  induction levels generalizing p with
  | zero => cases h
  | succ levels ih =>
    obtain ⟨hholds, -⟩ | ⟨q, henters, hf⟩ := mem_filesBelow_succ_iff.mp h
    · cases hholds with
      | entry hmem _ hskips => exact ⟨_, .file hmem (overrideVerdict?_of_not_skips hskips)⟩
    · obtain ⟨names, hway⟩ := ih hf
      cases henters with
      | entry hmem _ hskips => exact ⟨_, .directory hmem (overrideVerdict?_of_not_skips hskips) hway⟩

theorem exists_way_of_mem_deliveries (h : d ∈ w.deliveries) (hroot : d.isRoot = false) :
    ∃ names, w.tree.Way (fun path isDirectory => w.overrideVerdict? path isDirectory ≠ some .skip)
      d.root names d.file.path := by
  obtain ⟨root, -, hmem⟩ := List.mem_flatMap.mp h
  obtain ⟨file, hfile, rfl⟩ := List.mem_map.mp hmem
  obtain ⟨-, _, _, hbelow⟩ | ⟨hdirectory, -⟩ := of_mem_fromRoot hfile
  · exact exists_way_of_mem_filesBelow hbelow
  · simp [hdirectory] at hroot

/-- What the patterns leave out does not pass. -/
theorem not_excludes_of_overrideVerdict?
    (hbuild : Overrides.build first w.options.includes w.options.excludes = .ok w.overrides)
    (h : w.overrideVerdict? path isDirectory ≠ some .skip) : ¬ w.options.Excludes first path isDirectory := by
  rintro ⟨pattern, hpattern, hholds⟩
  exact h (Overrides.verdict?_of_excluded hbuild hpattern hholds)

/-- What a walk answers whose patterns compile. -/
theorem walk_eq_of_build (hroots : w.options.roots = first :: rest)
    (hbuild : Overrides.build first w.options.includes w.options.excludes = .ok w.overrides) :
    walk w.tree w.options w.filter =
      match w.options.roots.find? fun root => !w.tree.has root with
      | none => .ok (w.deliveries.map Delivery.file)
      | some missing => .error (.config (.missingPath missing)) := by
  rw [walk_eq hroots, hbuild]
  cases w.options.roots.find? fun root => !w.tree.has root <;> rfl

/-- **Patterns to leave out win, and the others let through.** Let the patterns of a walk compile; the walk
answers with its deliveries then, unless a root is missing. Of a file that is found below a root no pattern
to leave out holds, and there is a way from this root along which none holds of a directory either. So
nothing is found beneath a directory that such a pattern holds of, where entries have names; the patterns to
look at have no part in this. If there are patterns to look at, all of them plain, the last pattern of all
that holds of the file is one of these.

A plain pattern holds of the same entries behind the mark as without it. -/
theorem deliveries_follow_overrides (hroots : w.options.roots = first :: rest)
    (hbuild : Overrides.build first w.options.includes w.options.excludes = .ok w.overrides) :
    (∀ pattern path isDirectory, Rule.IsPlain pattern →
      lineHolds first ('!' :: pattern) path isDirectory = lineHolds first pattern path isDirectory) ∧
    (walk w.tree w.options w.filter =
      match w.options.roots.find? fun root => !w.tree.has root with
      | none => .ok (w.deliveries.map Delivery.file)
      | some missing => .error (.config (.missingPath missing))) ∧
    ∀ d ∈ w.deliveries, d.isRoot = false →
      ¬ w.options.Excludes first d.file.path false ∧
      (∃ names, w.tree.Way (fun path isDirectory => ¬ w.options.Excludes first path isDirectory)
        d.root names d.file.path) ∧
      (w.tree.top.IsNamed → ∀ names, names ≠ [] → (∀ name ∈ names, Path.IsName name) →
        w.options.Excludes first (names.foldl Path.join d.root) true →
          ¬ (names.foldl Path.join d.root).Beneath d.file.path) ∧
      (w.options.includes ≠ [] → (∀ pattern ∈ w.options.includes, Rule.IsPlain pattern) →
        ∃ before pattern after, w.options.includes = before ++ pattern :: after ∧
          lineHolds first pattern d.file.path false = true ∧
          ∀ later ∈ after ++ w.options.excludes.map ('!' :: ·),
            lineHolds first later d.file.path false = false) := by
  refine ⟨fun _ _ _ hplain => Overrides.lineHolds_marked hplain, walk_eq_of_build hroots hbuild, ?_⟩
  intro d hd hroot
  obtain ⟨names, hway⟩ := exists_way_of_mem_deliveries hd hroot
  have hpasses := hway.mono fun _ _ h => not_excludes_of_overrideVerdict? hbuild h
  refine ⟨hpasses.passes_file, ⟨names, hpasses⟩, ?_, ?_⟩
  · intro hnamed front hnonempty hfront hexcludes hbeneath
    exact hpasses.passes_of_beneath hnamed hnonempty hfront hbeneath hexcludes
  · intro hincludes hplain
    exact Overrides.exists_last_include hbuild hincludes hplain hway.passes_file

/-- A directory that is left out although a pattern to look at holds of what is below it. -/
theorem deliveries_follow_overrides_generated :
    let entries : List (List UInt8 × Node) :=
      [(fileName "a.c", .ofBytes []), (fileName "gen", .directory [(fileName "b.c", .ofBytes [])])]
    let t : FileTree := { top := .directory [(fileName "r", .directory entries)] }
    let first := Path.ofString "r"
    let o : WalkOptions :=
      { roots := [first], includes := ["*.c".toList, "gen/**".toList], excludes := ["gen".toList] }
    ∃ overrides, Overrides.build first o.includes o.excludes = .ok overrides ∧ t.top.IsNamed ∧
      Path.IsName (fileName "gen") ∧ o.Excludes first (first.join (fileName "gen")) true ∧
      o.includes ≠ [] ∧ (∀ pattern ∈ o.includes, Rule.IsPlain pattern) ∧
      let w : Walk := ⟨t, o, {}, overrides⟩
      let d : Delivery := ⟨first, false, w.found (first.join (fileName "a.c")) 0⟩
      lineHolds first "gen/**".toList (Path.ofString "r/gen/b.c") false = true ∧
      walk t o {} = .ok (w.deliveries.map Delivery.file) ∧ d ∈ w.deliveries ∧ d.isRoot = false ∧
        ¬ o.Excludes first d.file.path false ∧ ¬ (first.join (fileName "gen")).Beneath d.file.path ∧
        ∃ pattern ∈ o.includes, lineHolds first pattern d.file.path false = true := by
  intro entries t first o
  let overrides : Overrides :=
    (Overrides.build first o.includes o.excludes).toOption.get (by decide +kernel)
  have hbuild : Overrides.build first o.includes o.excludes = .ok overrides := eq_ok_get _
  have hgenerated : (Node.directory [(fileName "b.c", .ofBytes [])]).IsNamed :=
    .directory (by decide) (List.forall_mem_singleton.mpr .file)
  have hroot : (Node.directory entries).IsNamed :=
    .directory (by decide) (List.forall_mem_cons.mpr ⟨.file, List.forall_mem_singleton.mpr hgenerated⟩)
  have hnamed : t.top.IsNamed := .directory (by decide) (List.forall_mem_singleton.mpr hroot)
  have hplain : ∀ pattern ∈ o.includes, Rule.IsPlain pattern := by decide
  have hexcludes : o.Excludes first (first.join (fileName "gen")) true :=
    ⟨"gen".toList, List.mem_singleton_self _, by decide +kernel⟩
  refine ⟨overrides, hbuild, hnamed, by decide, hexcludes, List.cons_ne_nil _ _, hplain, ?_⟩
  intro w d
  have hfrom : w.fromRoot first = [d.file] := by decide +kernel
  have hdirectory : w.tree.isDirectory first = true := by decide +kernel
  have hmem : d ∈ w.deliveries := by
    refine List.mem_flatMap.mpr ⟨first, List.mem_singleton_self _, ?_⟩
    rw [hfrom, hdirectory]
    exact List.mem_singleton_self _
  obtain ⟨-, hwalk, hdeliveries⟩ := deliveries_follow_overrides (w := w) rfl hbuild
  obtain ⟨hfile, -, hbeneath, hlast⟩ := hdeliveries d hmem rfl
  have hmissing : (w.options.roots.find? fun root => !w.tree.has root) = none := by decide +kernel
  rw [hmissing] at hwalk
  refine ⟨by decide +kernel, hwalk, hmem, rfl, hfile, ?_, ?_⟩
  · exact hbeneath hnamed [fileName "gen"] (List.cons_ne_nil _ _) (by decide) hexcludes
  · obtain ⟨before, pattern, after, hincludes, hholds, -⟩ := hlast (List.cons_ne_nil _ _) hplain
    have hincludes' : o.includes = before ++ pattern :: after := hincludes
    exact ⟨pattern, by rw [hincludes']; simp, hholds⟩

end Walk

end LineCensus
