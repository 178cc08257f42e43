import LineCensus.Language.Builtin

/-!
# `Catalog` — the language of a file extension

Languages registered later take over the extensions of earlier ones, so that definitions override
the built-in table. An alias sends one extension to another, one step only.

## Contents

* `Catalog`, `Catalog.empty`, `Catalog.builtin` — the languages in order, with two tables;
* `Catalog.register`, `Catalog.addAlias` — additions; the newest entry of a table stands first;
* `Catalog.forExtension?`, `Catalog.byName?` — look-ups.
-/

namespace LineCensus

/-- Registered languages and how extensions lead to them. -/
structure Catalog where
  languages : List Language := []
  /-- The index of the language that claims an extension. -/
  owners : List (String × Nat) := []
  /-- The extension that another is treated as. -/
  aliases : List (String × String) := []
deriving DecidableEq, Repr

namespace Catalog

/-- No language. -/
def empty : Catalog := {}

/-- The catalog with one more language, which takes over the extensions it claims. -/
def register (c : Catalog) (language : Language) : Catalog :=
  { c with
    languages := c.languages ++ [language]
    owners := (language.extensions.map fun e => (e, c.languages.length)).reverse ++ c.owners }

/-- The catalog with the languages registered one after the other. -/
def registerAll (c : Catalog) (languages : List Language) : Catalog :=
  languages.foldl register c

/-- The built-in languages. -/
def builtin : Catalog := empty.registerAll Language.builtins

/-- The catalog in which files with extension `source` count as files with extension `target`. -/
def addAlias (c : Catalog) (source target : String) : Catalog :=
  { c with aliases := (extensionKey source, extensionKey target) :: c.aliases }

/-- The extension that one is treated as. -/
def effective (c : Catalog) (extension : String) : String :=
  let key := extensionKey extension
  (c.aliases.lookup key).getD key

/-- The language of files with this extension, given without its dot. -/
def forExtension? (c : Catalog) (extension : String) : Option Language :=
  (c.owners.lookup (c.effective extension)).bind (c.languages[·]?)

/-- The last language of this name, up to the case of ASCII letters. -/
def byName? (c : Catalog) (name : String) : Option Language :=
  c.languages.reverse.find? fun l => Text.eqIgnoreAsciiCase l.name.toList name.toList

/-- The number of languages. -/
def size (c : Catalog) : Nat := c.languages.length

end Catalog

end LineCensus
