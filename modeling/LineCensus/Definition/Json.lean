import LineCensus.Definition
import LineCensus.Json.Reader

/-!
# `Definition.Json` — definitions in JSON

A definition is an object, or an array of its fields in order. In an object, names that are not
those of a field are passed over, and a field may stand once. Fields with a default may be left out
of an object, and at the end of an array. `null` stands for an absent closing delimiter or escape,
and for nothing else.

## Contents

* `Json.text?`, `Json.listOf?`, `Json.optional?` — values of a type;
* `Definition.fieldsOf?` — the fields of an object or array by name;
* `definitionsOfJson?` — the definitions that a text holds;
* `Definition.toJson`, `definitionsToJson` — definitions with all their fields as JSON values.
-/

namespace LineCensus

namespace Json

/-- A string with a text. -/
def text? : Json → Option String
  | .string (some s) => some (String.ofList s)
  | _ => none

/-- An array of values of a type. -/
def listOf? {α : Type} (read : Json → Option α) : Json → Option (List α)
  | .array elements => elements.mapM read
  | _ => none

/-- A value of a type or `null`. -/
def optional? {α : Type} (read : Json → Option α) : Json → Option (Option α)
  | .null => some none
  | v => (read v).map some

end Json

namespace Definition

/-- The fields of a value by name: in an object by the names of its members, in an array by the
names in order. None if a name is not a text, or repeats one of these names, or the array is too
long. -/
def fieldsOf? (names : List String) : Json → Option (List (String × Json))
  | .object members => do
    let named ← members.mapM fun m => m.1.map fun name => (String.ofList name, m.2)
    let known := named.filter fun m => names.contains m.1
    if (known.map Prod.fst).Nodup then some known else none
  | .array elements => if elements.length ≤ names.length then some (names.zip elements) else none
  | _ => none

/-- A field that must be given. -/
def required? {α : Type} (fields : List (String × Json)) (name : String)
    (read : Json → Option α) : Option α :=
  (fields.lookup name).bind read

/-- A field with a default. -/
def defaulted? {α : Type} (fields : List (String × Json)) (name : String) (default : α)
    (read : Json → Option α) : Option α :=
  match fields.lookup name with
  | none => some default
  | some v => read v

/-- The delimiters of a block comment. -/
def blockOfJson? (v : Json) : Option BlockDefinition := do
  let fields ← fieldsOf? ["begin", "end"] v
  let opening ← required? fields "begin" Json.text?
  let closing ← required? fields "end" Json.text?
  return ⟨opening, closing⟩

/-- The delimiters of a string. -/
def stringOfJson? (v : Json) : Option StringDefinition := do
  let fields ← fieldsOf? ["begin", "end", "escape"] v
  let opening ← required? fields "begin" Json.text?
  let closing ← defaulted? fields "end" none (Json.optional? Json.text?)
  let escape ← defaulted? fields "escape" none (Json.optional? Json.text?)
  return ⟨opening, closing, escape⟩

/-- A definition. -/
def ofJson? (v : Json) : Option Definition := do
  let fields ← fieldsOf? ["name", "extensions", "line_comment", "block_comment", "strings"] v
  let name ← required? fields "name" Json.text?
  let extensions ← required? fields "extensions" (Json.listOf? Json.text?)
  let lines ← defaulted? fields "line_comment" [] (Json.listOf? Json.text?)
  let blocks ← defaulted? fields "block_comment" [] (Json.listOf? blockOfJson?)
  let strings ← defaulted? fields "strings" [] (Json.listOf? stringOfJson?)
  return ⟨name, extensions, lines, blocks, strings⟩

/-- The delimiters of a block comment as an object. -/
def blockToJson (b : BlockDefinition) : Json :=
  .ofMembers [("begin", .text b.opening), ("end", .text b.closing)]

/-- A text or `null`. -/
def optionToJson (s : Option String) : Json := (s.map Json.text).getD .null

/-- The delimiters of a string as an object. -/
def stringToJson (s : StringDefinition) : Json :=
  .ofMembers [
    ("begin", .text s.opening), ("end", optionToJson s.closing), ("escape", optionToJson s.escape)]

/-- A definition as an object with all its fields. -/
def toJson (d : Definition) : Json :=
  .ofMembers [
    ("name", .text d.name), ("extensions", .array (d.extensions.map .text)),
    ("line_comment", .array (d.lineComments.map .text)),
    ("block_comment", .array (d.blockComments.map blockToJson)),
    ("strings", .array (d.strings.map stringToJson))]

end Definition

/-- The definitions of a text. -/
def definitionsOfJson? (text : List Char) : Option (List Definition) :=
  (Json.parse? text).bind (Json.listOf? Definition.ofJson?)

/-- Definitions as an array. -/
def definitionsToJson (definitions : List Definition) : Json :=
  .array (definitions.map Definition.toJson)

end LineCensus
