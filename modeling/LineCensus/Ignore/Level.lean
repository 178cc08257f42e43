import LineCensus.FileTree
import LineCensus.Ignore.Rule

/-!
# `Ignore.Level` — the rules kept in directories

A directory may hold rules in `.ignore`, in `.gitignore`, and in `.git/info/exclude`. Those of the
first kind hold everywhere below it. The others hold inside a repository only, and not across the
root of an inner repository. Rules nearer to an entry go before farther ones, and the kinds come in
the order above.

## Contents

* `excludeFile?`, `ruleFileNames` — where the rules of a repository are kept outside its files, and
  all files with rules;
* `Level`, `Level.near`, `Level.far` — the rules of a directory that is walked, and of one above;
* `throughFirst` — a list up to the first element of a kind;
* `Level.verdict?` — what all levels say of an entry.
-/

namespace LineCensus

/-- The file name of a text. -/
def fileName (s : String) : List UInt8 := Text.encode s.toList

namespace FileTree

/-- The first line of a file. -/
def firstLine? (t : FileTree) (p : Path) : Option (List Char) :=
  match t.read p with
  | .error _ => none
  | .ok bytes =>
    match Text.terminated 10 bytes with
    | [] => none
    | line :: _ => (Text.decode? line).map Text.stripLineEnd

/-- The path that a line names. -/
def pathOfLine (line : List Char) : Path := ⟨Text.encode line⟩

/-- What stands before the directory of a repository in a file that refers to it. -/
def repositoryMark : List Char := "gitdir: ".toList

/-- The directory that a working tree shares with others, for one whose `.git` is a file. -/
def sharedRepository? (t : FileTree) (reference : Path) : Option Path := do
  let line ← t.firstLine? reference
  let own ← if repositoryMark.isPrefixOf line then some (line.drop repositoryMark.length) else none
  let own := pathOfLine own
  let shared ← t.firstLine? (own.join (fileName "commondir"))
  return if shared.head? = some '.' then own.append (pathOfLine shared) else pathOfLine shared

/-- The file with the rules of a repository that are kept apart from its files. -/
def excludeFile? (t : FileTree) (directory : Path) : Option Path :=
  let repository := directory.join (fileName ".git")
  let shared :=
    match t.node repository with
    | .ok (.file ..) => t.sharedRepository? repository
    | _ => some repository
  shared.map fun p => (p.join (fileName "info")).join (fileName "exclude")

end FileTree

/-- The names of the files that rules are read from, and of those that lead to them. -/
def ruleFileNames : List (List UInt8) :=
  [".ignore", ".gitignore", "exclude", ".git", "commondir"].map fileName

/-- The rules that one directory gives. -/
structure Level where
  path : Path
  ignore : RuleSet
  gitIgnore : RuleSet
  exclude : RuleSet
  /-- Whether the directory is the root of a repository. -/
  isRepository : Bool
deriving Repr

namespace Level

/-- The rules of a file for a directory; none if it cannot be read. -/
def rulesOf (t : FileTree) (directory file : Path) : RuleSet :=
  match t.read file with
  | .ok bytes => .ofBytes directory bytes
  | .error _ => ⟨directory, []⟩

/-- Whether a directory is under version control. -/
def hasRepository (t : FileTree) (directory : Path) : Bool :=
  t.has (directory.join (fileName ".git")) || t.has (directory.join (fileName ".jj"))

/-- The rules of a directory that is walked. -/
def near (t : FileTree) (gitIgnore : Bool) (directory : Path) : Level where
  path := directory
  ignore := rulesOf t directory (directory.join (fileName ".ignore"))
  gitIgnore :=
    if gitIgnore then rulesOf t directory (directory.join (fileName ".gitignore"))
    else ⟨directory, []⟩
  exclude := (t.excludeFile? directory).elim ⟨directory, []⟩ (rulesOf t directory)
  isRepository := hasRepository t directory

/-- The rules of a directory above the one where the walk starts. -/
def far (t : FileTree) (gitIgnore : Bool) (directory : Path) : Level :=
  let level := near t gitIgnore directory
  { level with isRepository := gitIgnore && level.isRepository }

/-- A list up to the first element of a kind, that one included. -/
def throughFirst {α : Type} (p : α → Bool) : List α → List α
  | [] => []
  | a :: l => if p a then [a] else a :: throughFirst p l

/-- What levels say of an entry, each given with the path that it sees, the nearest first. -/
def verdict? (levels : List (Level × Path)) (isDirectory : Bool) : Option Verdict :=
  let inRepository := levels.any fun l => l.1.isRepository
  let visible := if inRepository then throughFirst (fun l => l.1.isRepository) levels else []
  let first (rules : Level → RuleSet) (levels : List (Level × Path)) : Option Verdict :=
    levels.findSome? fun l => (rules l.1).verdict? l.2 isDirectory
  ((first ignore levels).or (first gitIgnore visible)).or (first exclude visible)

end Level

end LineCensus
