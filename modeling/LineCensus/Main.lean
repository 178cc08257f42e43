import LineCensus.CommandLine.Execution

/-!
# `Main` — the program

The part of the file system that a call may look at is taken down as a tree; all else is decided
there. Of the files below a root only those are read that a language claims or that hold rules.

## Contents

* `Survey.way`, `Survey.nodeOf`, `Survey.rulesAbove`, `Survey.tree` — taking down the tree;
* `main` — a call: its output, its messages, and its exit code.
-/

open LineCensus

namespace LineCensus.Survey

/-- The names of an absolute path. -/
def namesOf (path : Path) : Location := (Path.split path.bytes).filter fun name => !name.isEmpty

/-- What the file system says of a path, a last link not followed. -/
def status? (path : String) : IO (Option IO.FS.Metadata) := do
  let place : IO.FS.DirEntry := ⟨path, ""⟩
  try return some (← place.root.symlinkMetadata) catch _ => return none

/-- Where a path leads, if anywhere. -/
def real? (path : String) : IO (Option String) := do
  let place : IO.FS.DirEntry := ⟨path, ""⟩
  try
    let _ ← place.root.metadata
    return some (← IO.FS.realPath path).toString
  catch _ => return none

/-- The content of a file, or why there is none. -/
def contentOf (path : String) : IO (Except ReadFault (List UInt8)) := do
  try return .ok (← IO.FS.readBinFile path).toList
  catch
    | .permissionDenied .. => return .error .permissionDenied
    | _ => return .error .notFound

/-- A link to a place, or to itself if there is none. -/
def linkTo (path : String) : IO Node := do
  return .link (Path.ofString ((← real? path).getD path)).bytes

/-- What stands at a path with all that is below. Files are read on demand only. The places that
links lead to are noted. -/
partial def nodeOf (reads : Path → Bool) (path : String) :
    StateT (List String) IO (Option Node) := do
  let some status ← status? path | return none
  match status.type with
  | .file =>
    let content ← if reads (.ofString path) then contentOf path else pure (.ok [])
    return some (.file status.byteSize.toNat content)
  | .symlink =>
    if let some target ← real? path then modify (target :: ·)
    return some (← linkTo path)
  | .dir =>
    let place : IO.FS.DirEntry := ⟨path, ""⟩
    let found ← try place.root.readDir catch _ => pure #[]
    let mut entries := []
    for entry in found do
      if let some n ← nodeOf reads entry.path.toString then
        entries := (fileName entry.fileName, n) :: entries
    return some (.directory entries)
  | .other => return none

/-- The tree with what stands at a path. -/
def add (t : FileTree) (path : String) : Option Node → FileTree
  | some n => t.place (.ofString path) n
  | none => t

/-- The tree with the links on the way to a path. -/
def way (t : FileTree) (path : Path) : IO FileTree := do
  let names := Path.split path.bytes
  let mut t := t
  for count in List.range names.length do
    let start : Path := ⟨[Path.slash].intercalate (names.take (count + 1))⟩
    if let some status ← status? start.display then
      if status.type == .symlink then
        t := t.place start (← linkTo start.display)
  return t

/-- The tree with the rules of the directories above a place. -/
def rulesAbove (t : FileTree) (place : Path) : IO FileTree := do
  let mut t := t
  for names in Start.ancestors (namesOf place) do
    for name in [".ignore", ".gitignore", ".git", ".git/info/exclude", ".jj"] do
      let path := ((Path.ofNames names).join (fileName name)).display
      if let some target ← real? path then
        let status ← status? target
        let isDirectory := status.any fun s => s.type == .dir
        let n ← if isDirectory then pure (.directory []) else .ofBytes <$> do
          return (← contentOf target).toOption.getD []
        t := t.place (.ofString path) n
  return t

/-- The tree with all that stands at places, and at the places that links below lead to. Files come
last, so that they are read whatever their names are. -/
partial def places (reads : Path → Bool) (follow : Bool) (t : FileTree) (seen files : List String) :
    List String → IO FileTree
  | [] => do
    let mut t := t
    for path in files do
      t := add t path (← (nodeOf (fun _ => true) path).run' [])
    return t
  | path :: rest => do
    if seen.contains path then places reads follow t seen files rest
    else
      let status ← status? path
      if status.any fun s => s.type == .dir then
        let (n, targets) ← (nodeOf reads path).run []
        places reads follow (add t path n) (path :: seen) files
          (rest ++ if follow then targets else [])
      else places reads follow t (path :: seen) (path :: files) rest

/-- The tree of a configuration. -/
def tree (config : Config) : IO FileTree := do
  let here := Path.ofString (← IO.FS.realPath (← IO.currentDir)).toString
  let mut t := FileTree.ofEntries (namesOf here) []
  let mut roots := []
  for path in config.definitions.toList ++ config.walk.roots do
    t ← way t path
  for root in config.walk.roots do
    if let some target ← real? root.display then
      t ← rulesAbove t (.ofString target)
      roots := target :: roots
  if let some path := config.definitions then
    if let some target ← real? path.display then
      t := add t target (← (nodeOf (fun _ => true) target).run' [])
  let catalog := (buildCatalog t config).toOption
  let reads (p : Path) : Bool :=
    (catalog.any fun c => (c.ofPath? p).isSome) ||
      p.name?.any fun name => ruleFileNames.contains name
  places reads config.walk.followLinks t [] [] roots

end LineCensus.Survey

/-- The characters of a variable, if it is set. -/
def setting (name : String) : IO (Option (List Char)) := do
  return (← IO.getEnv name).map String.toList

/-- Runs the program. -/
def main (arguments : List String) : IO UInt32 := do
  let arguments := arguments.map String.toList
  let tree ←
    match CommandLine.Arguments.parse arguments with
    | .ok a => Survey.tree a.config
    | .error _ => pure {}
  let outcome :=
    CommandLine.execute tree ⟨← setting "LC_ALL", ← setting "LANG"⟩ arguments
  for message in outcome.messages do
    IO.eprintln message
  try
    IO.print (String.ofList outcome.output)
    return UInt32.ofNat outcome.code
  catch e =>
    IO.eprintln ("Output Error: IO error: " ++ toString e)
    return 1
