import LineCensus.Census
import LineCensus.Config
import LineCensus.Ignore.Level
import LineCensus.Ignore.Override

/-!
# `Walk` — the files below the roots

Roots are taken as they are. Below a root that is a directory an entry is passed over if the
patterns of the walk say so, or else the rules kept in directories, or else because it is hidden.
Then a file is found if its extension is accepted, and a directory is entered. Links below a root
are followed on demand, but not into a directory that the walk is in already.

## Contents

* `Walk`, `Start`, `Visited` — what guides a walk, where it starts, and the directories it is in;
* `Walk.skips`, `Walk.admits` — whether an entry is passed over, and whether the filter lets it pass;
* `Walk.below`, `Walk.fromRoot` — the files below a directory, and those of a root;
* `walk` — the files of all roots. Nothing is found if a root is missing or a pattern is malformed.
-/

namespace LineCensus

/-- What a walk is guided by. -/
structure Walk where
  tree : FileTree
  options : WalkOptions
  filter : ExtensionFilter
  overrides : Overrides

/-- A directory that a walk starts from. -/
structure Start where
  path : Path
  location : Location
  /-- The rules of the directories above, the nearest first. -/
  above : List Level

/-- A directory that a walk is in. -/
structure Visited where
  level : Level
  location : Location

namespace Start

/-- The locations above a location, the nearest first. -/
def ancestors (l : Location) : List Location := (List.range l.length).reverse.map l.take

/-- The start in a directory at a location. -/
def of (t : FileTree) (gitIgnore : Bool) (path : Path) (location : Location) : Start where
  path := path
  location := location
  above := (ancestors location).map fun l => Level.far t gitIgnore (Path.ofNames l)

/-- The absolute path of an entry below, as the directories above see it. -/
def seenFromAbove (s : Start) (path : List UInt8) : Path :=
  let below :=
    if s.path.components == [.current] then path
    else RuleSet.without [Path.slash] (RuleSet.without (RuleSet.bare s.path.bytes) path)
  (Path.ofNames s.location).append ⟨below⟩

end Start

/-- Whether the last name of a path begins with a dot. No path that ends with a dot counts. -/
def isHidden (p : Path) : Bool :=
  p.bytes.getLast? != some Path.dot && ((Path.split p.bytes).getLast?.bind List.head?) == some Path.dot

/-- What an entry turns out to be. -/
inductive Target where
  | file (size : Nat)
  | directory (location : Location)
deriving DecidableEq, Repr

namespace Walk

/-- What the rules of directories say of an entry. -/
def ruleVerdict? (start : Start) (chain : List Visited) (path : Path) (isDirectory : Bool) :
    Option Verdict :=
  let bare := RuleSet.bare path.bytes
  let fromAbove := start.seenFromAbove bare
  Level.verdict?
    (chain.map (fun s => (s.level, ⟨bare⟩)) ++ start.above.map fun l => (l, fromAbove)) isDirectory

/-- What the patterns of the walk say of an entry. -/
def overrideVerdict? (w : Walk) (path : Path) (isDirectory : Bool) : Option Verdict :=
  w.overrides.verdict? ⟨RuleSet.bare path.bytes⟩ isDirectory

/-- Whether an entry is passed over. -/
def skips (w : Walk) (start : Start) (chain : List Visited) (path : Path) (isDirectory : Bool) :
    Bool :=
  match (w.overrideVerdict? path isDirectory).or (ruleVerdict? start chain path isDirectory) with
  | some verdict => verdict == .skip
  | none => !w.options.hidden && isHidden path

/-- Whether the filter lets an entry pass. A directory passes whatever its name is. -/
def admits (w : Walk) (path : Path) (isDirectory : Bool) : Bool :=
  isDirectory || w.filter.accepts path.extensionText?

/-- What an entry of a directory is. Links count only if they are followed, and lead neither
nowhere nor back into a directory that the walk is in. -/
def target? (w : Walk) (chain : List Visited) (path : Path) (location : Location) (n : Node) :
    Option Target :=
  match n with
  | .file size _ => some (.file size)
  | .directory _ => some (.directory location)
  | .link _ =>
    if w.options.followLinks then
      match w.tree.locate true path with
      | .ok (_, .file size _) => some (.file size)
      | .ok (real, .directory _) =>
        if chain.any fun s => s.location == real then none else some (.directory real)
      | _ => none
    else none

/-- A file at a path. -/
def found (w : Walk) (path : Path) (size : Nat) : Found := ⟨path, size, w.tree.read path⟩

/-- The files below a directory that is entered; `levels` more levels of directories may be. -/
def below (w : Walk) (start : Start) :
    (levels : Nat) → List Visited → Path → Location → List Found
  | 0, _, _, _ => []
  | levels + 1, outer, path, location =>
    let chain := ⟨Level.near w.tree w.options.gitIgnore path, location⟩ :: outer
    (w.tree.entries path).flatMap fun (name, n) =>
      let entryPath := path.join name
      match w.target? chain entryPath (location ++ [name]) n with
      | none => []
      | some (.file size) =>
        if w.skips start chain entryPath false || !w.admits entryPath false then []
        else [w.found entryPath size]
      | some (.directory entryLocation) =>
        if w.skips start chain entryPath true || !w.admits entryPath true then []
        else below w start levels chain entryPath entryLocation

/-- How many levels of directories are entered. No path is longer than the bound on paths, and each
level makes it longer. -/
def levels (w : Walk) : Nat :=
  match w.options.maxDepth with
  | none => FileTree.pathLengthBound
  | some depth => min depth FileTree.pathLengthBound

/-- The name that stands for the standard input. -/
def standardInput : Path := Path.ofString "-"

/-- The files of a root. The standard input has none. -/
def fromRoot (w : Walk) (root : Path) : List Found :=
  if root.components == standardInput.components then []
  else
    match w.tree.locate true root with
    | .ok (_, .file ..) =>
      [w.found root (((w.tree.locate false root).toOption.map fun l => l.2.size).getD 0)]
    | .ok (location, .directory _) =>
      w.below (Start.of w.tree w.options.gitIgnore root location) w.levels [] root location
    | _ => []

end Walk

/-- The files that a walk finds. -/
def walk (t : FileTree) (options : WalkOptions) (filter : ExtensionFilter) :
    Except Failure (List Found) :=
  match options.roots with
  | [] => .ok []
  | first :: _ =>
    match options.roots.find? fun root => !t.has root with
    | some missing => .error (.config (.missingPath missing))
    | none =>
      (Overrides.build first options.includes options.excludes).map fun overrides =>
        options.roots.flatMap (Walk.fromRoot ⟨t, options, filter, overrides⟩)

end LineCensus
