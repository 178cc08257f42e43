import LineCensus.Catalog.Build
import LineCensus.Walk

/-!
# `Run` — a whole run

## Contents

* `countWalk` — the census of a walk with the languages of a catalog;
* `run` — the census of a configuration. If there are no languages to be had, nothing is walked;
* `runPaths` — the census of some roots, all else by default.
-/

namespace LineCensus

/-- The census of a walk with the languages of a catalog. A walk that fails finds nothing. -/
def countWalk (t : FileTree) (config : Config) (c : Catalog) : Except Failure Census :=
  match walk t config.walk config.filter with
  | .ok found => Census.collect config.strict c found none
  | .error failure => Census.collect config.strict c [] (some failure)

/-- The census of a configuration. -/
def run (t : FileTree) (config : Config) : Except Failure Census := do
  countWalk t config (← buildCatalog t config)

/-- The census of some roots. -/
def runPaths (t : FileTree) (roots : List Path) : Except Failure Census :=
  run t { walk := { roots } }

end LineCensus
