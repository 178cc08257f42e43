import LineCensus.Text.Case

/-!
# `Filter` — which extensions are counted

An extension that is denied is refused even if it is allowed too. With no allowed extension listed
every other one is accepted, and so is a file without any.
-/

namespace LineCensus

/-- Allowed and denied extensions, compared up to the case of ASCII letters. -/
structure ExtensionFilter where
  allow : List String := []
  deny : List String := []
deriving DecidableEq, Repr

namespace ExtensionFilter

/-- Whether the list holds the extension in some ASCII case. -/
def lists (extensions : List String) (extension : String) : Bool :=
  extensions.any fun e => Text.eqIgnoreAsciiCase e.toList extension.toList

/-- Whether files with the extension, or with none, are counted. -/
def accepts (f : ExtensionFilter) (extension : Option String) : Bool :=
  match extension with
  | none => f.allow.isEmpty
  | some e => !lists f.deny e && (f.allow.isEmpty || lists f.allow e)

end ExtensionFilter

end LineCensus
