import LineCensus.Filter
import LineCensus.Report

/-!
# `Config` — what is counted and how it is reported

## Contents

* `WalkOptions` — where files are looked for;
* `Config` — the walk, the filter on extensions, aliases and definitions, and the report.
-/

namespace LineCensus

/-- Where files are looked for. -/
structure WalkOptions where
  roots : List Path := []
  /-- Whether hidden files are looked at. -/
  hidden : Bool := false
  /-- Whether rules kept for version control hold. -/
  gitIgnore : Bool := true
  /-- How far below a root to go; the root itself is at zero. -/
  maxDepth : Option Nat := none
  followLinks : Bool := false
  /-- Patterns of files to look at, whatever other rules say. -/
  includes : List (List Char) := []
  /-- Patterns of files and directories to leave out. -/
  excludes : List (List Char) := []
deriving DecidableEq, Repr

/-- What is counted and how it is reported. -/
structure Config where
  walk : WalkOptions := {}
  filter : ExtensionFilter := {}
  /-- Extensions treated as others. -/
  aliases : List (String × String) := []
  format : OutputFormat := .table
  mode : OutputMode := .full
  sort : SortOrder := []
  top : Option Nat := none
  /-- The file with further languages. -/
  definitions : Option Path := none
  /-- Whether the first failure ends the run. -/
  strict : Bool := false
deriving DecidableEq, Repr

end LineCensus
