import LineCensus.Text.Quoted

/-!
# `Construct` — strings and comments, by their delimiters

## Contents

* `Construct.Kind` — string literal, line comment, block comment;
* `Construct` — a construct with its delimiters;
* `Construct.string?`, `Construct.lineComment?`, `Construct.blockComment?` — the checked
  constructors; `Construct.Error` says what they refuse.

A construct with an empty delimiter can be built by the plain constructors. It is never found.
-/

namespace LineCensus

/-- What sort of construct it is. -/
inductive Construct.Kind where
  | string
  /-- A comment that runs to the end of the line. -/
  | lineComment
  /-- A comment that may span several lines. -/
  | blockComment
deriving DecidableEq, Repr

/-- The name of a kind. -/
def Construct.Kind.name : Construct.Kind → String
  | .string => "string"
  | .lineComment => "line comment"
  | .blockComment => "block comment"

/-- A construct of a language, by its delimiters. -/
inductive Construct where
  /-- A string literal. A closing delimiter right after the escape character does not close. -/
  | string (opening closing : List Char) (escape : Option Char)
  | lineComment (opening : List Char)
  /-- A block comment. These do not nest. -/
  | blockComment (opening closing : List Char)
deriving DecidableEq, Repr

/-- Why a construct cannot be built. -/
inductive Construct.Error where
  /-- The escape of a string is not exactly one character. -/
  | invalidEscape (escape : String)
  | emptyDelimiter (kind : Construct.Kind)
deriving DecidableEq, Repr

/-- The text of the error. -/
def Construct.Error.message : Construct.Error → String
  | .invalidEscape escape =>
    "escape must be exactly one character, got " ++ String.ofList (Text.quoted escape.toList)
  | .emptyDelimiter kind => kind.name ++ " delimiter must not be empty"

namespace Construct

/-- The sort of the construct. -/
def kind : Construct → Kind
  | .string .. => .string
  | .lineComment .. => .lineComment
  | .blockComment .. => .blockComment

/-- The delimiter that opens the construct. -/
def opening : Construct → List Char
  | .string opening _ _ => opening
  | .lineComment opening => opening
  | .blockComment opening _ => opening

/-- The delimiter that closes the construct; a line comment has none. -/
def closing? : Construct → Option (List Char)
  | .string _ closing _ => some closing
  | .lineComment _ => none
  | .blockComment _ closing => some closing

/-- The escape character of a string. -/
def escape? : Construct → Option Char
  | .string _ _ escape => escape
  | _ => none

/-- `"` to `"`, with a backslash as escape. -/
def doubleQuoted : Construct := .string ['"'] ['"'] (some '\\')

/-- `'` to `'`, with a backslash as escape. -/
def singleQuoted : Construct := .string ['\''] ['\''] (some '\\')

/-- A string whose delimiters are not empty and whose escape, if given, is one character. -/
def string? (opening closing : List Char) (escape : Option (List Char)) :
    Except Error Construct :=
  if opening.isEmpty || closing.isEmpty then .error (.emptyDelimiter .string)
  else
    match escape with
    | none => .ok (.string opening closing none)
    | some [c] => .ok (.string opening closing (some c))
    | some text => .error (.invalidEscape (String.ofList text))

/-- A line comment whose delimiter is not empty. -/
def lineComment? (opening : List Char) : Except Error Construct :=
  if opening.isEmpty then .error (.emptyDelimiter .lineComment) else .ok (.lineComment opening)

/-- A block comment whose delimiters are not empty. -/
def blockComment? (opening closing : List Char) : Except Error Construct :=
  if opening.isEmpty || closing.isEmpty then .error (.emptyDelimiter .blockComment)
  else .ok (.blockComment opening closing)

end Construct

end LineCensus
