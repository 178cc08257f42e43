import LineCensus.CommandLine.Arguments
import LineCensus.Report.Render
import LineCensus.Run

/-!
# `CommandLine.Execution` — what a call of the program brings

## Contents

* `Environment`, `Environment.locale?` — the variables that name a locale;
* `Outcome` — exit code, output, and messages;
* `execute` — the outcome of a call. Failures of single files are told and do not end the run.
-/

namespace LineCensus.CommandLine

/-- The variables that name a locale, if they are set. -/
structure Environment where
  lcAll : Option (List Char) := none
  lang : Option (List Char) := none
deriving DecidableEq, Repr

/-- The locale that the environment names: the first variable that is set and not empty. -/
def Environment.locale? (e : Environment) : Option (List Char) :=
  ([e.lcAll, e.lang].filterMap id).find? fun v => !v.isEmpty

/-- What a call of the program brings. -/
structure Outcome where
  code : Nat
  output : List Char := []
  messages : List String := []
deriving DecidableEq, Repr

/-- The name and number of this version. -/
def versionText : String := "line_stats 0.1.0"

/-- How the program is called. -/
def usageText : String := String.intercalate "\n" [
    "Usage: line_stats [OPTIONS] [PATHS]...",
    "",
    "Options:",
    "      --format <table|csv|json|yaml>",
    "      --mode <full|summary>",
    "      --sort <KEY[:desc],...>",
    "      --top <N>",
    "      --locale <ID>",
    "      --ext <EXT,...>",
    "      --exclude-ext <EXT,...>",
    "      --map-ext <FROM=TO>",
    "      --languages <FILE>",
    "      --override-include <GLOB,...>",
    "      --override-exclude <GLOB,...>",
    "      --hidden",
    "      --no-gitignore",
    "      --follow",
    "      --max-depth <N>",
    "  -j, --jobs <N>",
    "      --strict",
    "  -v, --verbose",
    "  -q, --quiet",
    "  -h, --help",
    "  -V, --version"]

/-- The outcome of arguments that are refused, or that ask for something else than a run. -/
def Outcome.ofArgumentError : ArgumentError → Outcome
  | .help => { code := 0, output := (usageText ++ "\n").toList }
  | .version => { code := 0, output := (versionText ++ "\n").toList }
  | .malformedValue message => { code := 2, messages := ["error: " ++ message] }
  | .invalidValue => { code := 2, messages := ["error: invalid value"] }
  | .unknownArgument => { code := 2, messages := ["error: unexpected argument"] }
  | .conflict => { code := 2, messages := ["error: conflicting arguments"] }
  | .tooManyValues => { code := 2, messages := ["error: unexpected value"] }

/-- The message on a file that was not counted, or on the walk. -/
def failureMessage (f : Path × Failure) : String :=
  "Error processing " ++ f.1.display ++ ": " ++ f.2.message

/-- The outcome of a census. -/
def Outcome.ofCensus (config : Config) (locale : Locale) (census : Census) : Outcome :=
  let messages := census.failures.map failureMessage
  match (Report.of config.mode config.sort config.top census.records).render config.format locale
    with
  | .ok text => { code := 0, output := text, messages }
  | .error fault => { code := 1, messages := messages ++ ["Output Error: " ++ fault.message] }

/-- The outcome of a call. -/
def execute (t : FileTree) (environment : Environment) (arguments : List (List Char)) : Outcome :=
  match Arguments.parse arguments with
  | .error e => .ofArgumentError e
  | .ok a =>
    match run t a.config with
    | .error failure => { code := 1, messages := ["Application Error: " ++ failure.message] }
    | .ok census => .ofCensus a.config (Locale.resolve a.locale environment.locale?) census

end LineCensus.CommandLine
