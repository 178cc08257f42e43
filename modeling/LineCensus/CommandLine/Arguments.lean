import LineCensus.CommandLine.Value
import LineCensus.Config

/-!
# `CommandLine.Arguments` — the arguments of the command line

Arguments are read from the left and the first that is wrong decides. An option takes its value from
the next argument or after an equals sign; short ones may be run together, with the value at the end
of the run. A value that the next argument brings is checked only when another option or the end of
the line is reached, and an unknown option in between is reported first.

## Contents

* `Flag`, `ValueOption`, `Switch.ofLong?`, `Switch.ofShort?` — the options and their names;
* `ArgumentError` — why the arguments are refused, or what else is wanted;
* `Arguments`, `Arguments.set`, `Arguments.raise` — what the arguments say;
* `Parsing`, `Arguments.parse` — reading them;
* `Arguments.config`, `Arguments.logLevel` — the configuration that they stand for.
-/

namespace LineCensus.CommandLine

/-! ## Options -/

/-- Options without a value. -/
inductive Flag where
  | hidden
  | noGitignore
  | follow
  | strict
  | verbose
  | quiet
  | help
  | version
deriving DecidableEq, Repr

/-- Options with a value. -/
inductive ValueOption where
  | format
  | mode
  | sort
  | top
  | locale
  | ext
  | excludeExt
  | mapExt
  | languages
  | overrideInclude
  | overrideExclude
  | maxDepth
  | jobs
deriving DecidableEq, Repr

/-- An option of either sort. -/
inductive Switch where
  | flag (f : Flag)
  | valued (o : ValueOption)
deriving DecidableEq, Repr

/-- The options by their long names. -/
def Switch.longNames : List (String × Switch) := [
    ("format", .valued .format), ("mode", .valued .mode), ("sort", .valued .sort),
    ("top", .valued .top), ("locale", .valued .locale), ("ext", .valued .ext),
    ("exclude-ext", .valued .excludeExt), ("map-ext", .valued .mapExt),
    ("languages", .valued .languages), ("override-include", .valued .overrideInclude),
    ("override-exclude", .valued .overrideExclude), ("hidden", .flag .hidden),
    ("no-gitignore", .flag .noGitignore), ("follow", .flag .follow),
    ("max-depth", .valued .maxDepth), ("jobs", .valued .jobs), ("strict", .flag .strict),
    ("verbose", .flag .verbose), ("quiet", .flag .quiet), ("help", .flag .help),
    ("version", .flag .version)]

/-- The option of a long name. Names are not abbreviated. -/
def Switch.ofLong? (name : List Char) : Option Switch := longNames.lookup (String.ofList name)

/-- The option of a letter. -/
def Switch.ofShort? (c : Char) : Option Switch :=
  [('j', Switch.valued .jobs), ('v', .flag .verbose), ('q', .flag .quiet), ('h', .flag .help),
    ('V', .flag .version)].lookup c

/-! ## Errors -/

/-- Why the arguments are refused, or what is wanted instead of a run. -/
inductive ArgumentError where
  /-- A value is missing, or not one of those possible. -/
  | invalidValue
  /-- A value is malformed, with the text that says so. -/
  | malformedValue (message : String)
  | unknownArgument
  /-- Options that exclude one another, or the same one twice. -/
  | conflict
  /-- A flag with a value. -/
  | tooManyValues
  | help
  | version
deriving DecidableEq, Repr

/-! ## What the arguments say -/

/-- What the arguments say. -/
structure Arguments where
  paths : List Path := []
  format : Option OutputFormat := none
  mode : Option OutputMode := none
  sort : Option SortOrder := none
  top : Option Nat := none
  locale : Option (List Char) := none
  ext : List (List Char) := []
  excludeExt : List (List Char) := []
  mapExt : List (String × String) := []
  languages : Option Path := none
  overrideInclude : List (List Char) := []
  overrideExclude : List (List Char) := []
  hidden : Bool := false
  noGitignore : Bool := false
  follow : Bool := false
  maxDepth : Option Nat := none
  jobs : Option Nat := none
  strict : Bool := false
  verbose : Nat := 0
  quiet : Bool := false
deriving DecidableEq, Repr

/-- The format of a name. -/
def parseFormat (text : List Char) : Except ArgumentError OutputFormat :=
  match String.ofList text with
  | "table" => .ok .table
  | "csv" => .ok .csv
  | "json" => .ok .json
  | "yaml" => .ok .yaml
  | _ => .error .invalidValue

/-- The mode of a name. -/
def parseMode (text : List Char) : Except ArgumentError OutputMode :=
  match String.ofList text with
  | "full" => .ok .full
  | "summary" => .ok .summary
  | _ => .error .invalidValue

/-- A path, which must not be empty. -/
def parsePath (text : List Char) : Except ArgumentError Path :=
  if text.isEmpty then .error .invalidValue else .ok ⟨Text.encode text⟩

/-- A number of levels: a count without blanks around it. -/
def parseDepth (text : List Char) : Except String Nat := (parseCount text).mapError (·.message)

/-- A value that a reader refuses with a text. -/
def checked {α : Type} (value : Except String α) : Except ArgumentError α :=
  value.mapError .malformedValue

/-- The value of an option that may be given once. -/
def once {α : Type} (old : Option α) (value : Except ArgumentError α) :
    Except ArgumentError (Option α) :=
  if old.isSome then .error .conflict else value.map some

/-- The most that is counted of the flag for more messages. -/
def maxVerbose : Nat := 255

namespace Arguments

/-- The arguments with the value of an option. Lists of extensions and patterns are separated by
commas and grow. -/
def set (a : Arguments) (o : ValueOption) (value : List Char) : Except ArgumentError Arguments :=
  match o with
  | .format => (once a.format (parseFormat value)).map fun v => { a with format := v }
  | .mode => (once a.mode (parseMode value)).map fun v => { a with mode := v }
  | .sort => (once a.sort (checked (SortOrder.parse value))).map fun v => { a with sort := v }
  | .top => (once a.top (checked (parsePositive value))).map fun v => { a with top := v }
  | .locale => (once a.locale (.ok value)).map fun v => { a with locale := v }
  | .ext => .ok { a with ext := a.ext ++ splitOn ',' value }
  | .excludeExt => .ok { a with excludeExt := a.excludeExt ++ splitOn ',' value }
  | .mapExt => (checked (parseMapping value)).map fun v => { a with mapExt := a.mapExt ++ [v] }
  | .languages => (once a.languages (parsePath value)).map fun v => { a with languages := v }
  | .overrideInclude => .ok { a with overrideInclude := a.overrideInclude ++ splitOn ',' value }
  | .overrideExclude => .ok { a with overrideExclude := a.overrideExclude ++ splitOn ',' value }
  | .maxDepth => (once a.maxDepth (checked (parseDepth value))).map fun v => { a with maxDepth := v }
  | .jobs => (once a.jobs (checked (parseJobs value))).map fun v => { a with jobs := v }

/-- A flag that may be given once. -/
def raiseOnce (old : Bool) (raised : Arguments) : Except ArgumentError Arguments :=
  if old then .error .conflict else .ok raised

/-- The arguments with a flag. -/
def raise (a : Arguments) (f : Flag) : Except ArgumentError Arguments :=
  match f with
  | .hidden => raiseOnce a.hidden { a with hidden := true }
  | .noGitignore => raiseOnce a.noGitignore { a with noGitignore := true }
  | .follow => raiseOnce a.follow { a with follow := true }
  | .strict => raiseOnce a.strict { a with strict := true }
  | .verbose => .ok { a with verbose := min (a.verbose + 1) maxVerbose }
  | .quiet => raiseOnce a.quiet { a with quiet := true }
  | .help => .error .help
  | .version => .error .version

/-- The arguments with further paths. -/
def addPaths (a : Arguments) (values : List (List Char)) : Except ArgumentError Arguments :=
  (values.mapM parsePath).map fun paths => { a with paths := a.paths ++ paths }

end Arguments

/-! ## Reading -/

/-- What has been read but not yet checked. -/
inductive Pending where
  | paths (values : List (List Char))
  /-- An option whose value, if it is there, came in an argument of its own. -/
  | valued (o : ValueOption) (value : Option (List Char))
deriving DecidableEq, Repr

/-- What has been read. -/
structure Parsing where
  found : Arguments := {}
  pending : Option Pending := none
deriving DecidableEq, Repr

namespace Parsing

/-- Checks what is pending; an option must have its value now. -/
def settle (p : Parsing) : Except ArgumentError Parsing :=
  match p.pending with
  | none => .ok p
  | some (.paths values) => (p.found.addPaths values).map fun a => ⟨a, none⟩
  | some (.valued _ none) => .error .invalidValue
  | some (.valued o (some value)) => (p.found.set o value).map fun a => ⟨a, none⟩

/-- An option with its value in the same argument. -/
def attach (p : Parsing) (o : ValueOption) (value : List Char) : Except ArgumentError Parsing := do
  let p ← p.settle
  return { p with found := ← p.found.set o value }

/-- An option whose value is to follow. -/
def await (p : Parsing) (o : ValueOption) : Except ArgumentError Parsing := do
  let p ← p.settle
  return { p with pending := some (.valued o none) }

/-- A flag. -/
def raise (p : Parsing) (f : Flag) : Except ArgumentError Parsing := do
  let p ← p.settle
  return { p with found := ← p.found.raise f }

/-- A path. Paths in a row are checked together. -/
def addPath (p : Parsing) (value : List Char) : Except ArgumentError Parsing :=
  match p.pending with
  | some (.paths values) => .ok { p with pending := some (.paths (values ++ [value])) }
  | _ => p.settle.map fun p => { p with pending := some (.paths [value]) }

/-- An argument that is no option: the value that an option waits for, or a path. -/
def addValue (p : Parsing) (value : List Char) : Except ArgumentError Parsing :=
  match p.pending with
  | some (.valued o none) => .ok { p with pending := some (.valued o (some value)) }
  | _ => p.addPath value

/-- An option by its long name, with what follows an equals sign. -/
def readLong (p : Parsing) (body : List Char) : Except ArgumentError Parsing :=
  let (name, value) :=
    match splitOnce? '=' body with
    | some (name, value) => (name, some value)
    | none => (body, none)
  match Switch.ofLong? name, value with
  | none, _ => .error .unknownArgument
  | some (.flag _), some _ => .error .tooManyValues
  | some (.flag f), none => p.raise f
  | some (.valued o), some value => p.attach o value
  | some (.valued o), none => p.await o

/-- Short options run together. -/
def readShort (p : Parsing) : List Char → Except ArgumentError Parsing
  | [] => .ok p
  | c :: rest =>
    match Switch.ofShort? c with
    | none => .error .unknownArgument
    | some (.flag f) => do (← p.raise f).readShort rest
    | some (.valued o) =>
      match rest with
      | [] => p.await o
      | '=' :: value => p.attach o value
      | value => p.attach o value

/-- Reads arguments to the end. After a lone pair of hyphens all are paths. -/
def read (onlyPaths : Bool) (p : Parsing) : List (List Char) → Except ArgumentError Arguments
  | [] => do
    let p ← p.settle
    if p.found.quiet && 0 < p.found.verbose then .error .conflict else return p.found
  | argument :: rest =>
    if onlyPaths then do (← p.addPath argument).read true rest
    else
      match argument with
      | ['-', '-'] => p.read true rest
      | '-' :: '-' :: body => do (← p.readLong body).read false rest
      | '-' :: c :: body => do (← p.readShort (c :: body)).read false rest
      | value => do (← p.addValue value).read false rest

end Parsing

namespace Arguments

/-- The arguments of a command line. -/
def parse (arguments : List (List Char)) : Except ArgumentError Arguments :=
  Parsing.read false {} arguments

/-! ## Configuration -/

/-- The extensions of a list: without blanks around them and dots before them, none of them
empty. -/
def extensions (texts : List (List Char)) : List String :=
  ((texts.map fun t => trimDots (Text.trim t)).filter (!·.isEmpty)).map String.ofList

/-- Pairs in which no key comes twice; the last value of a key counts. -/
def lastOfEach (pairs : List (String × String)) : List (String × String) :=
  pairs.foldl (fun table pair => table.filter (·.1 != pair.1) ++ [pair]) []

/-- The configuration that the arguments stand for. -/
def config (a : Arguments) : Config where
  walk :=
    { roots := if a.paths.isEmpty then [Path.ofString "."] else a.paths
      hidden := a.hidden
      gitIgnore := !a.noGitignore
      maxDepth := a.maxDepth
      followLinks := a.follow
      includes := a.overrideInclude
      excludes := a.overrideExclude }
  filter := ⟨extensions a.ext, extensions a.excludeExt⟩
  aliases := lastOfEach a.mapExt
  format := a.format.getD .table
  mode := a.mode.getD .full
  sort := a.sort.getD []
  top := a.top
  definitions := a.languages
  strict := a.strict

/-- How much is logged. -/
def logLevel (a : Arguments) : String :=
  if a.quiet then "error"
  else if a.verbose = 0 then "warn"
  else if a.verbose = 1 then "info"
  else if a.verbose = 2 then "debug"
  else "trace"

end Arguments

end LineCensus.CommandLine
