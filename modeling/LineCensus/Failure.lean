import LineCensus.Construct
import LineCensus.Glob.Parse

/-!
# `Failure` — why a run, or one file of it, fails

## Contents

* `ReadFault` — why a file cannot be read;
* `ConfigFault` — what is wrong with a configuration;
* `Failure`, `Failure.message` — every cause, and its text. Where a definition file is malformed is
  not part of it.
-/

namespace LineCensus

/-- Why a file cannot be read. -/
inductive ReadFault where
  | notFound
  | permissionDenied
  | notADirectory
  | isADirectory
  | tooManyLinks
  | nameTooLong
  /-- A zero byte in a path. -/
  | nulByte
  | notUtf8
deriving DecidableEq, Repr

/-- The text of the fault. -/
def ReadFault.message : ReadFault → String
  | .notFound => "No such file or directory (os error 2)"
  | .permissionDenied => "Permission denied (os error 13)"
  | .notADirectory => "Not a directory (os error 20)"
  | .isADirectory => "Is a directory (os error 21)"
  | .tooManyLinks => "Too many levels of symbolic links (os error 40)"
  | .nameTooLong => "File name too long (os error 36)"
  | .nulByte => "file name contained an unexpected NUL byte"
  | .notUtf8 => "stream did not contain valid UTF-8"

/-- What is wrong with a configuration. -/
inductive ConfigFault where
  | emptyLanguageName
  | noExtensions (language : String)
  | missingPath (path : Path)
  | unknownFormat (path : Path)
deriving DecidableEq, Repr

/-- The text of the fault. -/
def ConfigFault.message : ConfigFault → String
  | .emptyLanguageName => "language name must not be empty"
  | .noExtensions language => "language '" ++ language ++ "': no extensions"
  | .missingPath path => "path does not exist: " ++ path.display
  | .unknownFormat path =>
    "language definitions must be .json, .yaml or .yml: " ++ path.display

/-- Why a run, or one file of it, fails. -/
inductive Failure where
  | unreadable (path : Path) (fault : ReadFault)
  /-- A pattern for the walk is malformed. -/
  | walk (pattern : String) (fault : Glob.Fault)
  | json
  | yaml
  | definition (language : String) (error : Construct.Error)
  | config (fault : ConfigFault)
  | extensionMapping (source target : String)
deriving DecidableEq, Repr

/-- The text of the failure. -/
def Failure.message : Failure → String
  | .unreadable path fault =>
    "Failed to read file '" ++ path.display ++ "': " ++ fault.message
  | .walk pattern fault =>
    "Walk error: error parsing glob '" ++ pattern ++ "': " ++ fault.message
  | .json => "JSON error: malformed definitions"
  | .yaml => "YAML error: malformed definitions"
  | .definition language error =>
    "Invalid definition for language '" ++ language ++ "': " ++ error.message
  | .config fault => "Invalid configuration: " ++ fault.message
  | .extensionMapping source target =>
    "Invalid extension mapping: " ++ source ++ "=" ++ target

end LineCensus
