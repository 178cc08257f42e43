import LineCensus.Catalog
import LineCensus.Failure
import LineCensus.FileRecord

/-!
# `Census` — counting the files that a walk finds

## Contents

* `Found`, `Found.count` — a file that was found, and its record: none if no language claims the
  file, or if it looks binary. A file that no language claims is not even read;
* `Census`, `Census.lenient` — the records and failures of all files, each file accounted for in
  exactly one place or left out;
* `strictRecords` — the records, or the first failure;
* `Census.collect` — one of the two, with what made the walk itself fail.
-/

namespace LineCensus

/-- A file that was found: its path, its size, and what reading it brings. -/
structure Found where
  path : Path
  size : Nat
  content : Except ReadFault (List UInt8)

/-- The bytes that tell whether a file is binary. -/
def binaryWindow : Nat := 8192

/-- Whether a file looks binary: a zero byte near its start. -/
def isBinary (content : List UInt8) : Bool := (content.take binaryWindow).contains 0

/-- The language of a path. One without an extension, or with one that is no text, counts as having
the empty extension. -/
def Catalog.ofPath? (c : Catalog) (p : Path) : Option Language :=
  c.forExtension? (p.extensionText?.getD "")

/-- The record of a file, if there is to be one. -/
def Found.count (f : Found) (c : Catalog) : Except Failure (Option FileRecord) :=
  match c.ofPath? f.path with
  | none => .ok none
  | some language =>
    match f.content with
    | .error fault => .error (.unreadable f.path fault)
    | .ok content =>
      if isBinary content then .ok none
      else
        .ok (some (.of f.path language.name f.size (countBytes language.constructs content)))

/-- The records of the files that were counted, and what failed where. -/
structure Census where
  records : List FileRecord := []
  failures : List (Path × Failure) := []
deriving DecidableEq, Repr

/-- The records in the order of their paths; records of equal paths keep their order. -/
def sortByPath (records : List FileRecord) : List FileRecord :=
  records.mergeSort fun a b => (a.path.compare b.path).isLE

namespace Census

/-- The record of a file, if it has one. -/
def recordOf? (c : Catalog) (f : Found) : Option FileRecord :=
  match f.count c with
  | .ok record => record
  | .error _ => none

/-- The failure of a file, under its path, if it fails. -/
def failureOf? (c : Catalog) (f : Found) : Option (Path × Failure) :=
  match f.count c with
  | .ok _ => none
  | .error failure => some (f.path, failure)

/-- A file has a failure exactly if counting it fails. -/
theorem failureOf?_eq_some {c : Catalog} {f : Found} {p : Path × Failure} :
    failureOf? c f = some p ↔ ∃ failure, f.count c = .error failure ∧ p = (f.path, failure) := by
  unfold failureOf?
  cases f.count c <;> simp [eq_comm]

/-- The records and failures of all files. -/
def lenient (c : Catalog) (found : List Found) : Census where
  records := found.filterMap (recordOf? c)
  failures := found.filterMap (failureOf? c)

end Census

/-- Files that are found in two parts are counted part by part. -/
theorem Census.lenient_append {c : Catalog} {l m : List Found} :
    Census.lenient c (l ++ m) =
      ⟨(Census.lenient c l).records ++ (Census.lenient c m).records,
        (Census.lenient c l).failures ++ (Census.lenient c m).failures⟩ := by
  simp [Census.lenient]

/-- The records of all files, or the first failure. -/
def strictRecords (c : Catalog) (found : List Found) : Except Failure (List FileRecord) :=
  (found.mapM fun f : Found => f.count c).map fun records => records.filterMap id

/-- The name under which the failure of a walk is listed. -/
def walkPath : Path := Path.ofString "<walk>"

namespace Census

/-- The census with its records in order. -/
def sorted (s : Census) : Census := { s with records := sortByPath s.records }

/-- The census of the files found and of what ended the walk, if it failed. When strict, a failure
takes the place of the census, one of a file before that of the walk. -/
def collect (strict : Bool) (c : Catalog) (found : List Found) (walkFailure : Option Failure) :
    Except Failure Census :=
  if strict then
    match strictRecords c found, walkFailure with
    | .error failure, _ => .error failure
    | .ok _, some failure => .error failure
    | .ok records, none => .ok (sorted ⟨records, []⟩)
  else
    let census := lenient c found
    let walk := walkFailure.toList.map fun failure => (walkPath, failure)
    .ok (sorted ⟨census.records, census.failures ++ walk⟩)

end Census

end LineCensus
