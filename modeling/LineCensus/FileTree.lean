import LineCensus.Failure

/-!
# `FileTree` — files, directories and symbolic links

A tree is what a run sees of a file system; it does not change while the run lasts.

## Contents

* `Node`, `Location`, `Node.at?` — what stands at a place, reached without following links;
* `FileTree`, `FileTree.resolve` — where a path leads. Links are followed, a limited number of them,
  and each step but the last must lead to a directory;
* `FileTree.node`, `FileTree.read`, `FileTree.entries` — what a path leads to, the bytes of a file
  and the entries of a directory;
* `FileTree.place` — a tree with one more entry.
-/

namespace LineCensus

/-- What stands at a place of a file tree. -/
inductive Node where
  /-- A file of a size, and what reading it brings. -/
  | file (size : Nat) (content : Except ReadFault (List UInt8))
  | directory (entries : List (List UInt8 × Node))
  | link (target : List UInt8)
deriving Repr

/-- The names that lead to a place from the top down. -/
abbrev Location := List (List UInt8)

namespace Node

/-- A file that can be read. -/
def ofBytes (content : List UInt8) : Node := .file content.length (.ok content)

/-- The number of bytes that a file or a link holds. -/
def size : Node → Nat
  | .file size _ => size
  | .link target => target.length
  | .directory _ => 0

/-- What stands at a location below, links not followed. -/
def at? : Node → Location → Option Node
  | n, [] => some n
  | .directory entries, name :: rest => (entries.lookup name).bind fun n => n.at? rest
  | _, _ :: _ => none

/-- The entries with the one of a name replaced, or added at the end. -/
def setEntry (entries : List (List UInt8 × Node)) (name : List UInt8) (n : Node) :
    List (List UInt8 × Node) :=
  if (entries.lookup name).isSome then entries.map fun e => if e.1 == name then (name, n) else e
  else entries ++ [(name, n)]

/-- The node that another one takes the place of. A directory in the place of a directory adds its
entries. -/
def replaceBy (new : Node) : Node → Node
  | .directory entries =>
    match new with
    | .directory more => .directory (more.foldl (fun l e => setEntry l e.1 e.2) entries)
    | _ => new
  | _ => new

/-- The node with another one at a location below, and directories on the way. -/
def put (new : Node) : Node → Location → Node
  | n, [] => replaceBy new n
  | .directory entries, name :: rest =>
    .directory (setEntry entries name
      (put new ((entries.lookup name).getD (.directory [])) rest))
  | n, _ :: _ => n

end Node

/-- A file tree and the directory that relative paths start from. -/
structure FileTree where
  top : Node := .directory []
  workingDirectory : Location := []
deriving Repr

namespace FileTree

/-- How many links may be followed on the way to one place. -/
def maxLinks : Nat := 40

/-- The most bytes that a name may have. -/
def maxNameLength : Nat := 255

/-- A path must be shorter than this. -/
def pathLengthBound : Nat := 4096

/-- Whether a step leads nowhere else: an empty one, as between two slashes, or a dot. -/
def isStill (name : List UInt8) : Bool := name.isEmpty || name == [Path.dot]

/-- Where the steps of a path lead from a directory, if `follow` tells where they lead from a link on: it is
given the directory where the path of the link starts, and that path with the steps behind the link. A link
behind the last step is followed only on demand. -/
def resolveSteps (top : Node) (followLast : Bool)
    (follow : Location → List (List UInt8) → Except ReadFault Location) (here : Location) :
    List (List UInt8) → Except ReadFault Location
  | [] => .ok here
  | name :: rest =>
    match top.at? here with
    | some (.directory entries) =>
      if isStill name then resolveSteps top followLast follow here rest
      else if name == [Path.dot, Path.dot] then
        resolveSteps top followLast follow here.dropLast rest
      else if maxNameLength < name.length then .error .nameTooLong
      else
        match entries.lookup name with
        | none => .error .notFound
        | some (.link target) =>
          if rest.isEmpty && !followLast then .ok (here ++ [name])
          else
            follow (if target.head? == some Path.slash then [] else here) (Path.split target ++ rest)
        | some _ => resolveSteps top followLast follow (here ++ [name]) rest
    | _ => .error .notADirectory

/-- Where the steps of a path lead from a directory. `links` more links may be followed. -/
def resolveFrom (top : Node) (followLast : Bool) :
    (links : Nat) → Location → List (List UInt8) → Except ReadFault Location
  | 0 => resolveSteps top followLast fun _ _ => .error .tooManyLinks
  | links + 1 => resolveSteps top followLast (resolveFrom top followLast links)

/-- Where a path leads. -/
def resolve (t : FileTree) (followLast : Bool) (p : Path) : Except ReadFault Location :=
  if p.bytes.contains 0 then .error .nulByte
  else if p.bytes.isEmpty then .error .notFound
  else if pathLengthBound ≤ p.bytes.length then .error .nameTooLong
  else
    resolveFrom t.top followLast maxLinks (if p.isAbsolute then [] else t.workingDirectory)
      (Path.split p.bytes)

/-- What stands where a path leads, with its location. -/
def locate (t : FileTree) (followLast : Bool) (p : Path) : Except ReadFault (Location × Node) :=
  match t.resolve followLast p with
  | .error fault => .error fault
  | .ok l => ((t.top.at? l).map fun n => (l, n)).elim (.error .notFound) .ok

/-- What stands where a path leads, links followed. -/
def node (t : FileTree) (p : Path) : Except ReadFault Node := (t.locate true p).map Prod.snd

/-- Whether a path leads anywhere. -/
def has (t : FileTree) (p : Path) : Bool := (t.node p).toBool

/-- The bytes of a file. -/
def read (t : FileTree) (p : Path) : Except ReadFault (List UInt8) :=
  match t.node p with
  | .error fault => .error fault
  | .ok (.file _ content) => content
  | .ok _ => .error .isADirectory

/-- The text of a file. -/
def readText (t : FileTree) (p : Path) : Except ReadFault (List Char) :=
  match t.read p with
  | .error fault => .error fault
  | .ok bytes => (Text.decode? bytes).elim (.error .notUtf8) .ok

/-- The entries of a directory, none of what is no directory. -/
def entries (t : FileTree) (p : Path) : List (List UInt8 × Node) :=
  match t.node p with
  | .ok (.directory entries) => entries
  | _ => []

/-- Where an entry is to stand: links on the way are followed, and missing directories are taken
as they are to be made. -/
def destination (t : FileTree) (here : Location) : List (List UInt8) → Location
  | [] => here
  | [name] => if isStill name then here else here ++ [name]
  | name :: rest =>
    match resolveFrom t.top true maxLinks here [name] with
    | .ok next => t.destination next rest
    | .error _ => t.destination (if isStill name then here else here ++ [name]) rest

/-- The tree with an entry at a path, and directories on the way. -/
def place (t : FileTree) (p : Path) (n : Node) : FileTree :=
  { t with
    top := Node.put n t.top
      (t.destination (if p.isAbsolute then [] else t.workingDirectory) (Path.split p.bytes)) }

/-- A tree of entries, made one after the other in a directory that paths start from. -/
def ofEntries (workingDirectory : Location) (entries : List (Path × Node)) : FileTree :=
  entries.foldl (fun t e => t.place e.1 e.2)
    { top := Node.put (.directory []) (.directory []) workingDirectory, workingDirectory }

end FileTree

end LineCensus
