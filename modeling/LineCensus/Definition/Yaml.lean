import LineCensus.Definition
import LineCensus.Yaml.Node
import LineCensus.Yaml.Plain

/-!
# `Definition.Yaml` — definitions in YAML

Definitions are mappings. Every scalar is a text where a text is wanted, however it is written. Keys
that are not those of a field are passed over with their values, and a field may stand once. A list
may be left out after its key; a closing delimiter or escape may be nothing.

## Contents

* `Reading` — reading a node of a document: how many references have been followed. There is a limit
  to that number;
* `Yaml.text`, `Yaml.optionalText`, `Yaml.listOf`, `Yaml.fields` — values of a type;
* `definitionsOfYaml?` — the definitions that a text holds.
-/

namespace LineCensus

namespace Yaml

/-- Reading within a document: the number of references followed, or a failure. -/
abbrev Reading := StateT Nat Option

/-- The node itself, or the one that it refers to. -/
def follow (document : Node) : Node → Reading Node
  | .reference n => do
    modify (· + 1)
    match document.find? n with
    | some node => return node
    | none => failure
  | node => return node

/-- A text. -/
def text (document node : Node) : Reading String := do
  match ← follow document node with
  | .scalar _ _ _ s => return String.ofList s
  | _ => failure

/-- The tag of nothing. -/
def nullTag : List UInt8 := Text.encode "tag:yaml.org,2002:null".toList

/-- A text or nothing: a plain scalar that is empty or a word for nothing. With the tag of nothing
it must be such a word; any other tag makes it a text. -/
def optionalText (document node : Node) : Reading (Option String) := do
  match ← follow document node with
  | .scalar _ tag plain s =>
    let text := some (String.ofList s)
    if !plain then return text
    else
      match tag with
      | none => return if s.isEmpty || isNullWord s then none else text
      | some tag =>
        if tag != nullTag then return text else if isNullWord s then return none else failure
  | _ => failure

/-- A list; one that is left out is empty. -/
def listOf {α : Type} (read : Node → Reading α) (document node : Node) : Reading (List α) := do
  match ← follow document node with
  | .sequence _ items => items.mapM read
  | .scalar _ _ true [] => return []
  | _ => failure

/-- The values of these keys in a mapping. Every key is a text. -/
def fields (names : List String) (document node : Node) : Reading (List (String × Node)) := do
  match ← follow document node with
  | .mapping _ entries =>
    let named ← entries.mapM fun entry => return (← text document entry.1, entry.2)
    let known := named.filter fun field => names.contains field.1
    if (known.map Prod.fst).Nodup then return known else failure
  | _ => failure

/-- The value of a field that must be given. -/
def required {α : Type} (fields : List (String × Node)) (name : String) (read : Node → Reading α) :
    Reading α :=
  match fields.lookup name with
  | some node => read node
  | none => failure

/-- The value of a field with a default. -/
def defaulted {α : Type} (fields : List (String × Node)) (name : String) (default : α)
    (read : Node → Reading α) : Reading α :=
  match fields.lookup name with
  | some node => read node
  | none => return default

/-- The delimiters of a block comment. -/
def blockDefinition (document node : Node) : Reading BlockDefinition := do
  let fields ← fields ["begin", "end"] document node
  let opening ← required fields "begin" (text document)
  let closing ← required fields "end" (text document)
  return ⟨opening, closing⟩

/-- The delimiters of a string. -/
def stringDefinition (document node : Node) : Reading StringDefinition := do
  let fields ← fields ["begin", "end", "escape"] document node
  let opening ← required fields "begin" (text document)
  let closing ← defaulted fields "end" none (optionalText document)
  let escape ← defaulted fields "escape" none (optionalText document)
  return ⟨opening, closing, escape⟩

/-- A definition. -/
def definition (document node : Node) : Reading Definition := do
  let fields ←
    fields ["name", "extensions", "line_comment", "block_comment", "strings"] document node
  let texts := listOf (text document) document
  let name ← required fields "name" (text document)
  let extensions ← required fields "extensions" texts
  let lines ← defaulted fields "line_comment" [] texts
  let blocks ←
    defaulted fields "block_comment" [] (listOf (blockDefinition document) document)
  let strings ← defaulted fields "strings" [] (listOf (stringDefinition document) document)
  return ⟨name, extensions, lines, blocks, strings⟩

/-- The most references that are followed in a document. -/
def referenceLimit (document : Node) : Nat := 100 * document.size

end Yaml

/-- The definitions of a text. -/
def definitionsOfYaml? (text : List Char) : Option (List Definition) := do
  let document ← Yaml.Node.read? text
  let (definitions, followed) ←
    (Yaml.listOf (Yaml.definition document) document document).run 0
  if followed ≤ Yaml.referenceLimit document then return definitions else none

end LineCensus
