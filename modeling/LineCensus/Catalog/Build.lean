import LineCensus.Catalog
import LineCensus.Config
import LineCensus.Definition.Json
import LineCensus.Definition.Yaml
import LineCensus.FileTree

/-!
# `Catalog.Build` — the languages of a run

The built-in languages come first, then those of the definitions file, then the aliases, one after
the other.

## Contents

* `DefinitionFormat`, `DefinitionFormat.ofPath` — how definitions are written, by the extension of
  their file;
* `loadDefinitions` — the languages of a definitions file. The format is decided before the file is
  read;
* `Catalog.addAliases` — refused at the first alias with an empty side;
* `buildCatalog` — all of it for a configuration.
-/

namespace LineCensus

/-- How definitions are written. -/
inductive DefinitionFormat where
  | json
  | yaml
deriving DecidableEq, Repr

namespace DefinitionFormat

/-- The format of a file, by its extension in any ASCII case. -/
def ofPath (p : Path) : Except Failure DefinitionFormat :=
  match p.extensionText?.map fun e => String.ofList (Text.lowerAscii e.toList) with
  | some "json" => .ok .json
  | some "yaml" => .ok .yaml
  | some "yml" => .ok .yaml
  | _ => .error (.config (.unknownFormat p))

/-- The definitions that a text holds. -/
def parse (f : DefinitionFormat) (text : List Char) : Except Failure (List Definition) :=
  match f with
  | .json => (definitionsOfJson? text).elim (.error .json) .ok
  | .yaml => (definitionsOfYaml? text).elim (.error .yaml) .ok

end DefinitionFormat

/-- The languages of a definitions file. -/
def loadDefinitions (t : FileTree) (p : Path) : Except Failure (List Language) := do
  let format ← DefinitionFormat.ofPath p
  let text ← (t.readText p).mapError (.unreadable p)
  let definitions ← format.parse text
  buildAll definitions

/-- The catalog with aliases. -/
def Catalog.addAliases (c : Catalog) : List (String × String) → Except Failure Catalog
  | [] => .ok c
  | (source, target) :: rest =>
    if source.isEmpty || target.isEmpty then .error (.extensionMapping source target)
    else (c.addAlias source target).addAliases rest

/-- The catalog of a configuration. -/
def buildCatalog (t : FileTree) (config : Config) : Except Failure Catalog := do
  let languages ←
    match config.definitions with
    | none => .ok []
    | some p => loadDefinitions t p
  (Catalog.builtin.registerAll languages).addAliases config.aliases

end LineCensus
