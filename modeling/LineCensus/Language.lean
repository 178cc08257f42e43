import LineCensus.Construct
import LineCensus.Text.Case

/-!
# `Language` — a name, file extensions, and constructs

Earlier constructs go before later ones whose opening delimiters are as long and start at the same
place.
-/

namespace LineCensus

/-- A language: its name, the file extensions it claims, without dots and in lower case, and its
constructs. -/
structure Language where
  name : String
  extensions : List String
  constructs : List Construct
deriving DecidableEq, Repr

/-- An extension as it is stored and looked up: in lower case, by the full mapping. -/
def extensionKey (extension : String) : String := String.ofList (Text.lower extension.toList)

/-- The language with its extensions in lower case. -/
def Language.define (name : String) (extensions : List String) (constructs : List Construct) :
    Language :=
  ⟨name, extensions.map extensionKey, constructs⟩

end LineCensus
