import LineCensus.Failure
import LineCensus.Language
import LineCensus.Text.Blank

/-!
# `Definition` — languages defined by the user

## Contents

* `Definition` — a language as a definitions file describes it;
* `Definition.build` — its constructs: line comments, block comments, strings, in this order and as
  listed. The first thing that is wrong, in the same order, is the error;
* `buildAll` — all languages of a file, or the error of the first one that has any.
-/

namespace LineCensus

/-- The delimiters of a block comment. -/
structure BlockDefinition where
  opening : String
  closing : String
deriving DecidableEq, Repr

/-- The delimiters of a string. Without a closing one the opening one closes too. -/
structure StringDefinition where
  opening : String
  closing : Option String
  escape : Option String
deriving DecidableEq, Repr

/-- A language as defined by the user. -/
structure Definition where
  name : String
  extensions : List String
  lineComments : List String
  blockComments : List BlockDefinition
  strings : List StringDefinition
deriving DecidableEq, Repr

namespace Definition

/-- An extension without the dots before it. -/
def bareExtension (extension : String) : String :=
  String.ofList (extension.toList.dropWhile (· == '.'))

/-- The construct of a string. -/
def stringConstruct (s : StringDefinition) : Except Construct.Error Construct :=
  Construct.string? s.opening.toList (s.closing.getD s.opening).toList
    (s.escape.map String.toList)

/-- The constructs in order, or the first error. -/
def constructs (d : Definition) : Except Construct.Error (List Construct) := do
  let lines ← d.lineComments.mapM fun s => Construct.lineComment? s.toList
  let blocks ← d.blockComments.mapM fun b =>
    Construct.blockComment? b.opening.toList b.closing.toList
  let strings ← d.strings.mapM stringConstruct
  return lines ++ blocks ++ strings

/-- The language of a definition. -/
def build (d : Definition) : Except Failure Language :=
  if Text.isBlankText d.name.toList then .error (.config .emptyLanguageName)
  else if d.extensions.isEmpty then .error (.config (.noExtensions d.name))
  else
    match d.constructs with
    | .error e => .error (.definition d.name e)
    | .ok constructs => .ok (.define d.name (d.extensions.map bareExtension) constructs)

end Definition

/-- The languages of a list of definitions. -/
def buildAll (definitions : List Definition) : Except Failure (List Language) :=
  definitions.mapM Definition.build

end LineCensus
