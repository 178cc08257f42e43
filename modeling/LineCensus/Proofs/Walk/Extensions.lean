import LineCensus.Walk
import Mathlib.Data.List.Basic

/-!
# `Proofs.Walk.Extensions` — a walk with a filter is a walk that is filtered afterwards

The filter on extensions is asked in the middle of the walk, at each entry below a root, where a wrong
answer about a directory would cut off all that is below it. It lets every directory pass, whatever its name
is, and looks at nothing but the entry, so which directories are entered does not depend on it
(`Walk.Enters`). By induction on the levels below a directory, the files there are those of the walk without
a filter, with the filter applied to them afterwards (`Walk.filesBelow_eq_filter`).

The same is said of single files: which ones lie below a directory is a matter of its entries and of those
that are passed over, and of no filter (`Walk.Below`); those with an accepted extension are found.

A root is not asked. A root that is a file is delivered whatever its extension is, also if the same file
stands below another root, where the filter keeps it back; so it is the way to a file that decides and not
its path alone, and a delivery is taken together with its root (`Walk.Delivery`).

## Contents

* `ExtensionFilter.Accepts` — what a filter accepts, and `ExtensionFilter.accepts_iff`;
* `Walk.unfiltered`, `Walk.filesBelow_eq_filter`, `Walk.fromRoot_eq_filter` — the files of a directory, of a
  root;
* `Walk.Place`, `Walk.Holds`, `Walk.Enters`, `Walk.Below` — the files in a directory, the directories that are
  entered from it, and the files below it (`Walk.mem_filesBelow_iff`);
* `Walk.LeadsTo` — what a root leads to, and `Walk.mem_fromRoot_iff`;
* `Path.Beneath`, `Walk.Delivery` — the files that a walk delivers, with their roots
  (`Walk.deliveries_eq_filter`, `Walk.mem_deliveries_iff`);
* `Walk.fails_or_delivers` — a walk is refused or delivers, whatever the filter is.
-/

namespace LineCensus

/-- With nothing allowed or denied every extension is accepted. -/
theorem ExtensionFilter.accepts_empty (extension : Option String) : accepts {} extension = true := by
  cases extension <;> rfl

/-- What a filter accepts: an extension that is not denied and, if any is allowed, is one of those, in
whatever case its ASCII letters are; and no extension at all if none is allowed. -/
def ExtensionFilter.Accepts (filter : ExtensionFilter) : Option String → Prop
  | none => filter.allow = []
  | some e =>
    (∀ denied ∈ filter.deny, denied.toList.map Char.toLower ≠ e.toList.map Char.toLower) ∧
      (filter.allow = [] ∨
        ∃ allowed ∈ filter.allow, allowed.toList.map Char.toLower = e.toList.map Char.toLower)

theorem ExtensionFilter.lists_iff {extensions : List String} {e : String} :
    lists extensions e = true ↔
      ∃ listed ∈ extensions, listed.toList.map Char.toLower = e.toList.map Char.toLower := by
  simp only [lists, List.any_eq_true, Text.eqIgnoreAsciiCase, Text.lowerAscii, beq_iff_eq]

theorem ExtensionFilter.accepts_iff {filter : ExtensionFilter} {extension : Option String} :
    filter.accepts extension = true ↔ filter.Accepts extension := by
  cases extension with
  | none => exact List.isEmpty_iff
  | some e =>
    simp only [accepts, Accepts, Bool.and_eq_true, Bool.or_eq_true, Bool.not_eq_true', List.isEmpty_iff,
      lists_iff, ← Bool.not_eq_true, not_exists, not_and]

/-- A path that leads from another one through the names of entries, one or more. -/
def Path.Beneath (p q : Path) : Prop := ∃ names, names ≠ [] ∧ q = names.foldl Path.join p

theorem Path.beneath_join (p : Path) (name : List UInt8) : p.Beneath (p.join name) :=
  ⟨[name], List.cons_ne_nil _ _, rfl⟩

theorem Path.Beneath.of_join {p q : Path} {name : List UInt8} (h : (p.join name).Beneath q) :
    p.Beneath q := by
  obtain ⟨names, -, hq⟩ := h
  exact ⟨name :: names, List.cons_ne_nil _ _, hq⟩

/-- Whether a path leads to a directory. -/
def FileTree.isDirectory (t : FileTree) (p : Path) : Bool :=
  match t.locate true p with
  | .ok (_, .directory _) => true
  | _ => false

namespace Walk

variable {w : Walk} {start : Start} {levels : Nat} {f : Found} {root : Path}

/-- The walk that accepts every extension. -/
def unfiltered (w : Walk) : Walk := { w with filter := {} }

/-! ## Below a directory -/

/-- A directory that a walk is in, with those that it was entered through, the nearest first. -/
structure Place where
  outer : List Visited
  path : Path
  location : Location

/-- The directories that the walk is in, this one first. -/
def Place.chain (p : Place) (w : Walk) : List Visited :=
  ⟨Level.near w.tree w.options.gitIgnore p.path, p.location⟩ :: p.outer

/-- The files below a directory, so many levels down. -/
def filesBelow (w : Walk) (start : Start) (levels : Nat) (p : Place) : List Found :=
  w.below start levels p.outer p.path p.location

/-- The files below a directory, entry by entry. -/
theorem filesBelow_succ (p : Place) :
    w.filesBelow start (levels + 1) p = (w.tree.entries p.path).flatMap fun (name, n) =>
      match w.target? (p.chain w) (p.path.join name) (p.location ++ [name]) n with
      | none => []
      | some (.file size) =>
        if w.skips start (p.chain w) (p.path.join name) false || !w.admits (p.path.join name) false then []
        else [w.found (p.path.join name) size]
      | some (.directory location) =>
        if w.skips start (p.chain w) (p.path.join name) true || !w.admits (p.path.join name) true then []
        else w.filesBelow start levels ⟨p.chain w, p.path.join name, location⟩ := rfl

/-- **The files below a directory are those of the walk without a filter, filtered afterwards.** -/
theorem filesBelow_eq_filter (levels : Nat) (p : Place) :
    w.filesBelow start levels p =
      (w.unfiltered.filesBelow start levels p).filter fun f => w.filter.accepts f.path.extensionText? := by
  induction levels generalizing p with
  | zero => rfl
  | succ levels ih =>
    rw [filesBelow_succ, filesBelow_succ, List.filter_flatMap]
    apply List.flatMap_congr
    rintro ⟨name, n⟩ -
    -- what an entry is and whether it is passed over are the same for both walks
    have htarget : w.unfiltered.target? (p.chain w.unfiltered) (p.path.join name) (p.location ++ [name]) n =
        w.target? (p.chain w) (p.path.join name) (p.location ++ [name]) n := rfl
    have hskips (isDirectory : Bool) :
        w.unfiltered.skips start (p.chain w.unfiltered) (p.path.join name) isDirectory =
          w.skips start (p.chain w) (p.path.join name) isDirectory := rfl
    simp only [htarget, hskips]
    cases w.target? (p.chain w) (p.path.join name) (p.location ++ [name]) n with
    | none => rfl
    | some target =>
      cases target with
      | file size =>
        have hadmits : w.admits (p.path.join name) false =
            w.filter.accepts (w.found (p.path.join name) size).path.extensionText? := rfl
        have hall : w.unfiltered.admits (p.path.join name) false = true :=
          ExtensionFilter.accepts_empty _
        have hfound : w.unfiltered.found (p.path.join name) size = w.found (p.path.join name) size := rfl
        simp only [hadmits, hall, hfound]
        cases w.skips start (p.chain w) (p.path.join name) false with
        | true => rfl
        | false =>
          cases haccepts : w.filter.accepts (w.found (p.path.join name) size).path.extensionText? <;>
            simp [haccepts]
      | directory location =>
        -- a directory passes in both walks
        have hadmits : w.admits (p.path.join name) true = true := rfl
        have hall : w.unfiltered.admits (p.path.join name) true = true := rfl
        simp only [hadmits, hall]
        cases w.skips start (p.chain w) (p.path.join name) true with
        | true => rfl
        | false => exact ih ⟨p.chain w, p.path.join name, location⟩

/-- A file stands in a directory if it is an entry there that is not passed over. -/
inductive Holds (w : Walk) (start : Start) (p : Place) : Found → Prop where
  | entry {name : List UInt8} {n : Node} {size : Nat} :
      (name, n) ∈ w.tree.entries p.path →
      w.target? (p.chain w) (p.path.join name) (p.location ++ [name]) n = some (.file size) →
      w.skips start (p.chain w) (p.path.join name) false = false →
      Holds w start p ⟨p.path.join name, size, w.tree.read (p.path.join name)⟩

/-- A directory is entered from another one if it is an entry there that is not passed over. Nothing is
asked about the extension of its name. -/
inductive Enters (w : Walk) (start : Start) (p : Place) : Place → Prop where
  | entry {name : List UInt8} {n : Node} {location : Location} :
      (name, n) ∈ w.tree.entries p.path →
      w.target? (p.chain w) (p.path.join name) (p.location ++ [name]) n = some (.directory location) →
      w.skips start (p.chain w) (p.path.join name) true = false →
      Enters w start p ⟨p.chain w, p.path.join name, location⟩

/-- The files below a directory are the accepted ones of those that stand in it, and those below the
directories that are entered from it. -/
theorem mem_filesBelow_succ_iff {p : Place} :
    f ∈ w.filesBelow start (levels + 1) p ↔
      (w.Holds start p f ∧ w.filter.accepts f.path.extensionText? = true) ∨
        ∃ q, w.Enters start p q ∧ f ∈ w.filesBelow start levels q := by
  rw [filesBelow_succ, List.mem_flatMap]
  constructor
  · rintro ⟨⟨name, n⟩, hentry, hf⟩
    cases htarget : w.target? (p.chain w) (p.path.join name) (p.location ++ [name]) n with
    | none =>
      simp only [htarget, List.not_mem_nil] at hf
    | some target =>
      cases target with
      | file size =>
        simp only [htarget, List.mem_ite_nil_left, List.mem_singleton, Bool.or_eq_true, not_or,
          Bool.not_eq_true, Bool.not_eq_false'] at hf
        obtain ⟨⟨hskips, hadmits⟩, rfl⟩ := hf
        exact .inl ⟨.entry hentry htarget hskips, hadmits⟩
      | directory location =>
        simp only [htarget, List.mem_ite_nil_left, Bool.or_eq_true, not_or, Bool.not_eq_true] at hf
        obtain ⟨⟨hskips, -⟩, hf⟩ := hf
        exact .inr ⟨_, .entry hentry htarget hskips, hf⟩
  · rintro (⟨hholds, haccepts⟩ | ⟨q, henters, hf⟩)
    · cases hholds with
      | @entry name n size hentry htarget hskips =>
        refine ⟨(name, n), hentry, ?_⟩
        have hadmits : w.admits (p.path.join name) false = true := haccepts
        simp only [htarget, hskips, hadmits]
        exact List.mem_singleton_self _
    · cases henters with
      | @entry name n location hentry htarget hskips =>
        refine ⟨(name, n), hentry, ?_⟩
        simp only [htarget, hskips]
        exact hf

/-- A directory that is no link is entered if it is not passed over. -/
theorem Enters.directory {p : Place} (name : List UInt8) (entries : List (List UInt8 × Node))
    (hentry : (name, .directory entries) ∈ w.tree.entries p.path)
    (hskips : w.skips start (p.chain w) (p.path.join name) true = false) :
    w.Enters start p ⟨p.chain w, p.path.join name, p.location ++ [name]⟩ :=
  .entry hentry rfl hskips

/-- Neither question is put to the filter. -/
theorem Holds.with_filter {p : Place} (h : w.Holds start p f) (filter : ExtensionFilter) :
    { w with filter }.Holds start p f := by
  cases h with
  | entry hentry htarget hskips => exact .entry hentry htarget hskips

theorem Enters.with_filter {p q : Place} (h : w.Enters start p q) (filter : ExtensionFilter) :
    { w with filter }.Enters start p q := by
  cases h with
  | entry hentry htarget hskips => exact .entry hentry htarget hskips

/-- A file lies below a directory, at most so many levels down, if it stands in it or lies below a directory
that is entered from it. -/
inductive Below (w : Walk) (start : Start) : Nat → Place → Found → Prop where
  | here {levels : Nat} {p : Place} {f : Found} : w.Holds start p f → Below w start (levels + 1) p f
  | deeper {levels : Nat} {p q : Place} {f : Found} :
      w.Enters start p q → Below w start levels q f → Below w start (levels + 1) p f

/-- **What a walk finds below a directory** are the files that lie there and whose extensions are accepted.
Which files lie there does not depend on the filter. -/
theorem mem_filesBelow_iff {filter : ExtensionFilter} {p : Place} :
    f ∈ { w with filter }.filesBelow start levels p ↔
      w.Below start levels p f ∧ filter.accepts f.path.extensionText? = true := by
  induction levels generalizing p with
  | zero =>
    constructor
    · intro h
      cases h
    · rintro ⟨h, -⟩
      cases h
  | succ levels ih =>
    rw [mem_filesBelow_succ_iff]
    constructor
    · rintro (⟨hholds, haccepts⟩ | ⟨q, henters, hf⟩)
      · exact ⟨.here (hholds.with_filter w.filter), haccepts⟩
      · obtain ⟨hbelow, haccepts⟩ := ih.mp hf
        exact ⟨.deeper (henters.with_filter w.filter) hbelow, haccepts⟩
    · rintro ⟨hbelow, haccepts⟩
      cases hbelow with
      | here hholds => exact .inl ⟨hholds.with_filter filter, haccepts⟩
      | deeper henters hbelow => exact .inr ⟨_, henters.with_filter filter, ih.mpr ⟨hbelow, haccepts⟩⟩

/-- What is found below a directory lies beneath its path. -/
theorem beneath_of_mem_filesBelow {p : Place} (h : f ∈ w.filesBelow start levels p) :
    p.path.Beneath f.path := by
  induction levels generalizing p with
  | zero => cases h
  | succ levels ih =>
    obtain ⟨hholds, -⟩ | ⟨q, henters, hf⟩ := mem_filesBelow_succ_iff.mp h
    · cases hholds with
      | entry => exact p.path.beneath_join _
    · cases henters with
      | entry => exact (ih hf).of_join

/-! ## Roots -/

/-- **The files of a root.** A root that is a directory has those of the walk without a filter, filtered
afterwards; any other root is not asked for its extension. -/
theorem fromRoot_eq_filter (root : Path) :
    w.fromRoot root = (w.unfiltered.fromRoot root).filter
      fun f => !w.tree.isDirectory root || w.filter.accepts f.path.extensionText? := by
  have htree : w.unfiltered.tree = w.tree := rfl
  rw [fromRoot, fromRoot, FileTree.isDirectory, htree]
  split
  · rfl
  · cases w.tree.locate true root with
    | error fault => rfl
    | ok place =>
      obtain ⟨location, n⟩ := place
      cases n with
      | file => rfl
      | link => rfl
      | directory entries => exact filesBelow_eq_filter w.levels ⟨[], root, location⟩

/-- What a root leads to: the root itself, if it is a file, or the files that lie below it. The standard
input leads to nothing. -/
inductive LeadsTo (w : Walk) (root : Path) : (isRoot : Bool) → Found → Prop where
  | root {location : Location} {size : Nat} {content : Except ReadFault (List UInt8)} :
      root.components ≠ (Path.ofString "-").components →
      w.tree.locate true root = .ok (location, .file size content) →
      LeadsTo w root true
        ⟨root, ((w.tree.locate false root).toOption.map fun l => l.2.size).getD 0, w.tree.read root⟩
  | below {location : Location} {entries : List (List UInt8 × Node)} {f : Found} :
      root.components ≠ (Path.ofString "-").components →
      w.tree.locate true root = .ok (location, .directory entries) →
      w.Below (.of w.tree w.options.gitIgnore root location) w.levels ⟨[], root, location⟩ f →
      LeadsTo w root false f

/-- **What a walk finds from a root** is the root itself, whatever its extension is, or what lies below it and
has an extension that is accepted. -/
theorem mem_fromRoot_iff (filter : ExtensionFilter) :
    f ∈ { w with filter }.fromRoot root ↔
      w.LeadsTo root true f ∨ w.LeadsTo root false f ∧ filter.accepts f.path.extensionText? = true := by
  rw [fromRoot, standardInput]
  by_cases hinput : root.components = (Path.ofString "-").components
  · rw [if_pos (beq_iff_eq.mpr hinput)]
    constructor
    · intro h
      cases h
    · rintro (hroot | ⟨hbelow, -⟩)
      · cases hroot with
        | root hother => exact absurd hinput hother
      · cases hbelow with
        | below hother => exact absurd hinput hother
  rw [if_neg fun h => hinput (beq_iff_eq.mp h)]
  constructor
  · intro h
    cases hplace : w.tree.locate true root with
    | error fault =>
      simp only [hplace] at h
      cases h
    | ok place =>
      obtain ⟨location, n⟩ := place
      simp only [hplace] at h
      cases n with
      | file size content =>
        obtain rfl := List.mem_singleton.mp h
        exact .inl (.root hinput hplace)
      | link target => cases h
      | directory entries =>
        have hfound : f ∈ { w with filter }.filesBelow (.of w.tree w.options.gitIgnore root location)
            w.levels ⟨[], root, location⟩ := h
        obtain ⟨hbelow, haccepts⟩ := mem_filesBelow_iff.mp hfound
        exact .inr ⟨.below hinput hplace hbelow, haccepts⟩
  · rintro (hroot | ⟨hbelow, haccepts⟩)
    · cases hroot with
      | root _ hplace =>
        simp only [hplace]
        exact List.mem_singleton_self _
    · cases hbelow with
      | below _ hplace hbelow =>
        simp only [hplace]
        exact mem_filesBelow_iff.mpr ⟨hbelow, haccepts⟩

theorem LeadsTo.isRoot_eq {isRoot : Bool} (h : w.LeadsTo root isRoot f) :
    isRoot = !w.tree.isDirectory root := by
  rw [FileTree.isDirectory]
  cases h with
  | root _ hplace => simp only [hplace]; rfl
  | below _ hplace => simp only [hplace]; rfl

/-- A file of a root that is a directory is one of those below it; of another root it is the root itself. -/
theorem of_mem_fromRoot (h : f ∈ w.fromRoot root) :
    (w.tree.isDirectory root = true ∧
      ∃ start location, f ∈ w.filesBelow start w.levels ⟨[], root, location⟩) ∨
      (w.tree.isDirectory root = false ∧ f.path = root) := by
  obtain hleads | ⟨hleads, haccepts⟩ := (mem_fromRoot_iff w.filter).mp h
  · have hdirectory : w.tree.isDirectory root = false := by simpa using hleads.isRoot_eq
    cases hleads with
    | root => exact .inr ⟨hdirectory, rfl⟩
  · have hdirectory : w.tree.isDirectory root = true := by simpa using hleads.isRoot_eq
    cases hleads with
    | below _ _ hbelow => exact .inl ⟨hdirectory, _, _, mem_filesBelow_iff.mpr ⟨hbelow, haccepts⟩⟩

/-! ## Deliveries -/

/-- A file that a walk delivers, with the root that led to it. -/
structure Delivery where
  root : Path
  /-- Whether the file is the root itself, and not found below it. -/
  isRoot : Bool
  file : Found

/-- The file is the root itself or lies beneath it, as the delivery says. -/
def Delivery.Placed (d : Delivery) : Prop :=
  if d.isRoot then d.file.path = d.root else d.root.Beneath d.file.path

/-- Whether a filter has nothing against a delivery: roots pass. -/
def Delivery.passes (filter : ExtensionFilter) (d : Delivery) : Bool :=
  d.isRoot || filter.accepts d.file.path.extensionText?

/-- What a walk delivers, root by root. -/
def deliveries (w : Walk) : List Delivery :=
  w.options.roots.flatMap fun root =>
    (w.fromRoot root).map fun file => ⟨root, !w.tree.isDirectory root, file⟩

theorem map_file_deliveries : w.deliveries.map Delivery.file = w.options.roots.flatMap w.fromRoot := by
  rw [deliveries, List.map_flatMap]
  apply List.flatMap_congr
  intro root _
  rw [List.map_map]
  exact List.map_id _

theorem placed_of_mem_deliveries {d : Delivery} (h : d ∈ w.deliveries) :
    d.root ∈ w.options.roots ∧ d.isRoot = !w.tree.isDirectory d.root ∧ d.Placed := by
  obtain ⟨root, hroot, hmem⟩ := List.mem_flatMap.mp h
  obtain ⟨file, hfile, rfl⟩ := List.mem_map.mp hmem
  refine ⟨hroot, rfl, ?_⟩
  rw [Delivery.Placed]
  obtain ⟨hdirectory, _, _, hbelow⟩ | ⟨hdirectory, hpath⟩ := of_mem_fromRoot hfile
  · simpa [hdirectory] using beneath_of_mem_filesBelow hbelow
  · simpa [hdirectory] using hpath

/-- **What a walk delivers** is what its roots lead to, less what does not pass. -/
theorem mem_deliveries_iff {d : Delivery} :
    d ∈ w.deliveries ↔
      d.root ∈ w.options.roots ∧ w.LeadsTo d.root d.isRoot d.file ∧ d.passes w.filter = true := by
  have hroots {root : Path} {f : Found} : f ∈ w.fromRoot root ↔
      w.LeadsTo root true f ∨ w.LeadsTo root false f ∧ w.filter.accepts f.path.extensionText? = true :=
    mem_fromRoot_iff w.filter
  rw [deliveries, List.mem_flatMap]
  constructor
  · rintro ⟨root, hroot, hd⟩
    obtain ⟨f, hf, rfl⟩ := List.mem_map.mp hd
    obtain hleads | ⟨hleads, haccepts⟩ := hroots.mp hf
    · rw [← hleads.isRoot_eq]
      exact ⟨hroot, hleads, rfl⟩
    · rw [← hleads.isRoot_eq]
      exact ⟨hroot, hleads, haccepts⟩
  · obtain ⟨root, isRoot, f⟩ := d
    rintro ⟨hroot, hleads, hpasses⟩
    refine ⟨root, hroot, List.mem_map.mpr ⟨f, hroots.mpr ?_, by rw [← hleads.isRoot_eq]⟩⟩
    cases isRoot with
    | true => exact .inl hleads
    | false => exact .inr ⟨hleads, hpasses⟩

/-- A walk with a filter delivers what the walk without one does, less what does not pass. -/
theorem deliveries_eq_filter : w.deliveries = w.unfiltered.deliveries.filter (Delivery.passes w.filter) := by
  rw [deliveries, deliveries, List.filter_flatMap]
  apply List.flatMap_congr
  intro root _
  rw [fromRoot_eq_filter, List.filter_map]
  rfl

/-- What a walk answers as soon as there is a root: its deliveries, unless a root is missing or its patterns do
not compile. -/
theorem walk_eq {t : FileTree} {o : WalkOptions} {filter : ExtensionFilter} {first : Path} {rest : List Path}
    (hroots : o.roots = first :: rest) :
    walk t o filter =
      match o.roots.find? fun root => !t.has root with
      | some missing => .error (.config (.missingPath missing))
      | none => (Overrides.build first o.includes o.excludes).map fun overrides =>
        (Walk.mk t o filter overrides).deliveries.map Delivery.file := by
  simp only [map_file_deliveries]
  cases hmissing : o.roots.find? fun root => !t.has root with
  | some missing =>
    rw [walk, hroots]
    simp only [← hroots, hmissing]
  | none =>
    rw [walk, hroots]
    simp only [← hroots, hmissing]

/-- Whether a walk is refused, and by which patterns it is guided, does not depend on the filter. -/
theorem fails_or_delivers (t : FileTree) (o : WalkOptions) :
    (∃ failure, ∀ filter, walk t o filter = .error failure) ∨
      ∃ overrides,
        (∀ first ∈ o.roots.head?, Overrides.build first o.includes o.excludes = .ok overrides) ∧
        ∀ filter,
          walk t o filter = .ok ((Walk.mk t o filter overrides).deliveries.map Delivery.file) := by
  cases hroots : o.roots with
  | nil =>
    refine .inr ⟨⟨⟨⟨[]⟩, []⟩⟩, by simp, fun filter => ?_⟩
    rw [map_file_deliveries, walk, hroots]
    rfl
  | cons first rest =>
    simp only [walk_eq hroots]
    cases o.roots.find? fun root => !t.has root with
    | some missing => exact .inl ⟨_, fun _ => rfl⟩
    | none =>
      cases hbuild : Overrides.build first o.includes o.excludes with
      | error failure => exact .inl ⟨failure, fun _ => rfl⟩
      | ok overrides =>
        refine .inr ⟨overrides, ?_, fun _ => rfl⟩
        rintro _ ⟨⟩
        exact hbuild

end Walk

end LineCensus
