import LineCensus.Proofs.Json.Fields
import Mathlib.Logic.Relation

/-!
# `Proofs.Definition.Spelling` — definitions in JSON, however they are written

What is written for definitions is read back as these definitions, in any layout. And definitions can be
written in other ways as well: with their fields in another order, with more members than fields, without
the fields that have their defaults, and with `null` for a delimiter that is not given. That holds of each
object in the text, of a definition as of a block comment or a string inside it. A text with one of the
objects changed in this way is read as before, so two texts are read alike if changes lead from one to the
other (`Definition.Respelled`).

The three records differ in nothing but their shape. The names and defaults of a shape are what the reader of
the record asks for, which is checked once for each field (`blockOfJson?_respelling` and the other two); for
the fields with objects in them the reader of the list gives the induction. What has no default cannot be
left out: then there is no list at all, and one object is enough (`Definition.Incomplete`).

## Contents

* `Definition.ofJson?_toJson`, `proper_definitionsToJson` — what is written is read back;
* `Definition.blockShape`, `Definition.stringShape`, `Definition.shape` — the records;
* `Definition.ofJson?_respelling`, `Definition.Respelled` — what is read alike;
* `Definition.Incomplete`, `Definition.Incomplete.ofJson?_eq_none` — what is not read;
* `definitions_in_any_spelling` — the definitions of a text.
-/

namespace LineCensus

/-! ## What is written is read back -/

theorem Json.text?_text (s : String) : (Json.text s).text? = some s := by
  rw [text, text?, String.ofList_toList]

theorem Json.proper_text (s : String) : (Json.text s).Proper := .string s.toList

theorem Json.proper_array_iff {elements : List Json} :
    (Json.array elements).Proper ↔ ∀ v ∈ elements, v.Proper := by
  constructor
  · intro h
    cases h with
    | array h => exact h
  · exact .array

theorem Json.proper_ofMembers_iff {members : List (String × Json)} :
    (Json.ofMembers members).Proper ↔ ∀ m ∈ members, m.2.Proper := by
  constructor
  · intro h m hm
    cases h with
    | object _ hvalues => exact hvalues _ (List.mem_map_of_mem hm)
  · intro h
    refine .object (fun m hm => ?_) fun m hm => ?_
    · obtain ⟨field, -, rfl⟩ := List.mem_map.mp hm
      rfl
    · obtain ⟨field, hfield, rfl⟩ := List.mem_map.mp hm
      exact h field hfield

namespace Definition

theorem optional?_optionToJson (s : Option String) : Json.optional? Json.text? (optionToJson s) = some s := by
  cases s with
  | none => rfl
  | some s => simp [optionToJson, Json.optional?, Json.text, Json.text?]

theorem blockOfJson?_blockToJson (b : BlockDefinition) : blockOfJson? (blockToJson b) = some b := by
  rw [blockOfJson?, blockToJson, fieldsOf?_ofMembers (by simp) (by simp)]
  simp [required?_cons, Json.text?_text]

theorem stringOfJson?_stringToJson (s : StringDefinition) : stringOfJson? (stringToJson s) = some s := by
  rw [stringOfJson?, stringToJson, fieldsOf?_ofMembers (by simp) (by simp)]
  simp [required?_cons, defaulted?_cons, Json.text?_text, optional?_optionToJson]

/-- **A definition is read back.** -/
theorem ofJson?_toJson (d : Definition) : ofJson? d.toJson = some d := by
  have htexts : ∀ l : List String, Json.listOf? Json.text? (.array (l.map Json.text)) = some l :=
    fun l => listOf?_map fun s _ => Json.text?_text s
  have hblocks := listOf?_map fun b (_ : b ∈ d.blockComments) => blockOfJson?_blockToJson b
  have hstrings := listOf?_map fun s (_ : s ∈ d.strings) => stringOfJson?_stringToJson s
  rw [ofJson?, toJson, fieldsOf?_ofMembers (by simp) (by simp)]
  simp [required?_cons, defaulted?_cons, Json.text?_text, htexts, hblocks, hstrings]

theorem proper_optionToJson (s : Option String) : (optionToJson s).Proper := by
  cases s with
  | none => exact .null
  | some s => exact Json.proper_text s

theorem proper_toJson (d : Definition) : d.toJson.Proper := by
  have hblocks : ∀ b, (blockToJson b).Proper := by
    simp [blockToJson, Json.proper_ofMembers_iff, Json.proper_text]
  have hstrings : ∀ s, (stringToJson s).Proper := by
    simp [stringToJson, Json.proper_ofMembers_iff, Json.proper_text, proper_optionToJson]
  simp [toJson, Json.proper_ofMembers_iff, Json.proper_array_iff, Json.proper_text, hblocks, hstrings]

end Definition

theorem listOf?_definitionsToJson (definitions : List Definition) :
    Json.listOf? Definition.ofJson? (definitionsToJson definitions) = some definitions :=
  listOf?_map fun d _ => Definition.ofJson?_toJson d

theorem proper_definitionsToJson (definitions : List Definition) : (definitionsToJson definitions).Proper :=
  Json.proper_array_iff.mpr (by simp [Definition.proper_toJson])

/-! ## What is read alike -/

namespace Definition

/-- The delimiters of a block comment: both are required. -/
def blockShape : Shape where
  names := ["begin", "end"]
  defaults := []
  Inside _ _ _ := False

/-- The delimiters of a string: the closing one and the escape may be missing. -/
def stringShape : Shape where
  names := ["begin", "end", "escape"]
  defaults := [("end", .null), ("escape", .null)]
  Inside _ _ _ := False

/-- A definition: its lists may be left out if nothing is in them, and the objects in two of them may be
written in another way. -/
def shape : Shape where
  names := ["name", "extensions", "line_comment", "block_comment", "strings"]
  defaults := [("line_comment", .array []), ("block_comment", .array []), ("strings", .array [])]
  Inside name v v' :=
    name = "block_comment" ∧ InArray (Respelling blockShape) v v' ∨
      name = "strings" ∧ InArray (Respelling stringShape) v v'

section Respelling

variable {members members' : List Json.Member}

theorem blockOfJson?_respelling (h : Respelling blockShape members members') :
    blockOfJson? (.object members) = blockOfJson? (.object members') := by
  refine h.bind_fieldsOf? fun fields fields' hfields => ?_
  have hbegin : required? fields "begin" Json.text? = required? fields' "begin" Json.text? :=
    required?_congr (hfields "begin") (by simp [blockShape]) fun _ _ hinside => hinside.elim
  have hend : required? fields "end" Json.text? = required? fields' "end" Json.text? :=
    required?_congr (hfields "end") (by simp [blockShape]) fun _ _ hinside => hinside.elim
  rw [hbegin, hend]

theorem stringOfJson?_respelling (h : Respelling stringShape members members') :
    stringOfJson? (.object members) = stringOfJson? (.object members') := by
  refine h.bind_fieldsOf? fun fields fields' hfields => ?_
  have hbegin : required? fields "begin" Json.text? = required? fields' "begin" Json.text? :=
    required?_congr (hfields "begin") (by simp [stringShape]) fun _ _ hinside => hinside.elim
  have hoptional : ∀ name ∈ ["end", "escape"],
      defaulted? fields name none (Json.optional? Json.text?) =
        defaulted? fields' name none (Json.optional? Json.text?) := by
    intro name hname
    refine defaulted?_congr (hfields name) ?_ fun _ _ hinside => hinside.elim
    intro v hv
    obtain ⟨-, rfl⟩ | ⟨-, rfl⟩ : name = "end" ∧ v = .null ∨ name = "escape" ∧ v = .null := by
      simpa [stringShape] using hv
    all_goals rfl
  rw [hbegin, hoptional "end" (by simp), hoptional "escape" (by simp)]

/-- A list may be left out if nothing is in it. -/
theorem listOf?_default {α : Type} {name : String} {v : Json} {read : Json → Option α}
    (h : (name, v) ∈ shape.defaults) : Json.listOf? read v = some [] := by
  simp only [shape, List.mem_cons, Prod.mk.injEq, List.not_mem_nil, or_false] at h
  rcases h with ⟨-, rfl⟩ | ⟨-, rfl⟩ | ⟨-, rfl⟩ <;> rfl

/-- **A definition is read alike after a change**, in its own fields or in an object inside them. -/
theorem ofJson?_respelling (h : Respelling shape members members') :
    ofJson? (.object members) = ofJson? (.object members') := by
  refine h.bind_fieldsOf? fun fields fields' hfields => ?_
  have hname : required? fields "name" Json.text? = required? fields' "name" Json.text? :=
    required?_congr (hfields "name") (by simp [shape]) (by simp [shape])
  have hextensions : required? fields "extensions" (Json.listOf? Json.text?) =
      required? fields' "extensions" (Json.listOf? Json.text?) :=
    required?_congr (hfields "extensions") (by simp [shape]) (by simp [shape])
  have hlines : defaulted? fields "line_comment" [] (Json.listOf? Json.text?) =
      defaulted? fields' "line_comment" [] (Json.listOf? Json.text?) :=
    defaulted?_congr (hfields "line_comment") (fun _ => listOf?_default) (by simp [shape])
  -- the objects inside a field are read alike, and so is the list of them
  have hblocks : defaulted? fields "block_comment" [] (Json.listOf? blockOfJson?) =
      defaulted? fields' "block_comment" [] (Json.listOf? blockOfJson?) := by
    refine defaulted?_congr (hfields "block_comment") (fun _ => listOf?_default) fun v v' hinside => ?_
    obtain ⟨-, hinside⟩ | ⟨hname, -⟩ := hinside
    · exact hinside.listOf?_eq fun _ _ => blockOfJson?_respelling
    · exact absurd hname (by decide)
  have hstrings : defaulted? fields "strings" [] (Json.listOf? stringOfJson?) =
      defaulted? fields' "strings" [] (Json.listOf? stringOfJson?) := by
    refine defaulted?_congr (hfields "strings") (fun _ => listOf?_default) fun v v' hinside => ?_
    obtain ⟨hname, -⟩ | ⟨-, hinside⟩ := hinside
    · exact absurd hname (by decide)
    · exact hinside.listOf?_eq fun _ _ => stringOfJson?_respelling
  rw [hname, hextensions, hlines, hblocks, hstrings]

/-- Two values of which changes to objects, made or taken back, lead from one to the other. -/
def Respelled : Json → Json → Prop := Relation.EqvGen (InArray (Respelling shape))

/-- Changes to one object are changes to the list. -/
theorem Respelled.of_object (before after : List Json)
    (h : Relation.ReflTransGen (Respelling shape) members members') :
    Respelled (.array (before ++ .object members :: after))
      (.array (before ++ .object members' :: after)) := by
  induction h with
  | refl => exact .refl _
  | tail _ hchange ih => exact .trans _ _ _ ih (.rel _ _ (.object before after hchange))

/-- Lists of definitions are read alike after any number of changes. -/
theorem Respelled.listOf?_eq {v v' : Json} (h : Respelled v v') :
    Json.listOf? ofJson? v = Json.listOf? ofJson? v' := by
  induction h with
  | rel v v' h => exact h.listOf?_eq fun _ _ => ofJson?_respelling
  | refl v => rfl
  | symm v v' _ ih => exact ih.symm
  | trans v w v' _ _ ih ih' => exact ih.trans ih'

end Respelling

/-! ## What is not read -/

/-- A definition without a name or extensions, or with a block comment or a string without one of its required
delimiters. -/
inductive Incomplete (members : List Json.Member) : Prop where
  | name (h : Lacks members "name")
  | extensions (h : Lacks members "extensions")
  | block {items : List Json} {delimiters : List Json.Member}
      (hfield : (some "block_comment".toList, .array items) ∈ members) (hitem : .object delimiters ∈ items)
      (h : Lacks delimiters "begin" ∨ Lacks delimiters "end")
  | string {items : List Json} {delimiters : List Json.Member}
      (hfield : (some "strings".toList, .array items) ∈ members) (hitem : .object delimiters ∈ items)
      (h : Lacks delimiters "begin")

section Incomplete

variable {members : List Json.Member}

theorem blockOfJson?_of_lacks (h : Lacks members "begin" ∨ Lacks members "end") :
    blockOfJson? (.object members) = none := by
  rw [blockOfJson?]
  cases hfields : fieldsOf? ["begin", "end"] (.object members) with
  | none => rfl
  | some fields => rcases h with h | h <;> simp [h.required? hfields]

theorem stringOfJson?_of_lacks (h : Lacks members "begin") : stringOfJson? (.object members) = none := by
  rw [stringOfJson?]
  cases hfields : fieldsOf? ["begin", "end", "escape"] (.object members) with
  | none => rfl
  | some fields => simp [h.required? hfields]

/-- **An incomplete definition is not read.** -/
theorem Incomplete.ofJson?_eq_none (h : Incomplete members) : ofJson? (.object members) = none := by
  rw [ofJson?]
  by_cases hread : Readable shape.names members
  · have hfields := fieldsOf?_of_readable hread
    have hlookup {name : String} (v : Json) (hname : name ∈ shape.names)
        (hmem : (some name.toList, v) ∈ members) : (known shape.names members).lookup name = some v :=
      hread.lookup_of_mem hname hmem
    simp only [shape] at hfields hlookup
    cases h with
    | name h => simp [hfields, h.required? hfields]
    | extensions h => simp [hfields, h.required? hfields]
    | block hfield hitem h =>
      have hblocks := listOf?_eq_none hitem (blockOfJson?_of_lacks h)
      simp [hfields, defaulted?, hlookup _ _ hfield, hblocks]
    | string hfield hitem h =>
      have hstrings := listOf?_eq_none hitem (stringOfJson?_of_lacks h)
      simp [hfields, defaulted?, hlookup _ _ hfield, hstrings]
  · have hfields := fieldsOf?_of_not_readable hread
    simp only [shape] at hfields
    rw [hfields]
    rfl

end Incomplete

end Definition

/-! ## The definitions of a text -/

/-- **Definitions in any spelling.** Every text of what is written for definitions holds these definitions, and
the layout with one member a line is such a text. Two texts hold the same definitions, or neither holds any,
if changes lead from the value of one to that of the other: members in another order, members that are no
fields, fields with their defaults there or not, in any of the objects. And a text holds none if a required
field is missing in one of them. -/
theorem definitions_in_any_spelling :
    (∀ definitions text, Json.Spells (.value (definitionsToJson definitions)) text →
      definitionsOfJson? text = some definitions) ∧
    (∀ definitions, Json.Spells (.value (definitionsToJson definitions)) (definitionsToJson definitions).pretty) ∧
    (∀ text text' v v', Json.parse? text = some v → Json.parse? text' = some v' → Definition.Respelled v v' →
      definitionsOfJson? text = definitionsOfJson? text') ∧
    (∀ text elements members, Json.parse? text = some (.array elements) → .object members ∈ elements →
      Definition.Incomplete members → definitionsOfJson? text = none) := by
  refine ⟨fun definitions text htext => ?_, fun definitions => ?_, fun text text' v v' hv hv' h => ?_,
    fun text elements members helements hmem h => ?_⟩
  · rw [definitionsOfJson?, htext.parse?_eq, Option.bind_some, listOf?_definitionsToJson]
  · exact (proper_definitionsToJson definitions).spells 0
  · rw [definitionsOfJson?, definitionsOfJson?, hv, hv', Option.bind_some, Option.bind_some, h.listOf?_eq]
  · rw [definitionsOfJson?, helements, Option.bind_some]
    exact listOf?_eq_none hmem h.ofJson?_eq_none

/-- A definition with all its fields, and the same one with a note, its fields in another order and without
those that have their defaults. Without extensions it is none. -/
theorem definitions_in_any_spelling_terse :
    let d : Definition := ⟨"A", ["a"], [], [], [⟨"\"", none, some "\\"⟩]⟩
    let terse : Json := .array [.ofMembers [("note", .null),
      ("strings", .array [.ofMembers [("begin", .text "\""), ("escape", .text "\\")]]), ("name", .text "A"),
      ("extensions", .array [.text "a"])]]
    let bare : Json := .array [.ofMembers [("name", .text "A")]]
    definitionsOfJson? terse.pretty = some [d] ∧ definitionsOfJson? bare.pretty = none := by
  intro d terse bare
  obtain ⟨hread, hpretty, halike, hincomplete⟩ := definitions_in_any_spelling
  have hterse : Json.parse? terse.pretty = some terse := by
    have hproper : terse.Proper := by
      simp [terse, Json.proper_array_iff, Json.proper_ofMembers_iff, Json.proper_text, Json.Proper.null]
    exact (hproper.spells 0).parse?_eq
  have hbare : Json.parse? bare.pretty = some bare := by
    have hproper : bare.Proper := by
      simp [bare, Json.proper_array_iff, Json.proper_ofMembers_iff, Json.proper_text]
    exact (hproper.spells 0).parse?_eq
  have hrespelled : Definition.Respelled (definitionsToJson [d]) terse := by
    refine Definition.Respelled.of_object [] [] ?_
    refine .head (.permute (@List.perm_append_comm _ [_, _] _)) ?_
    refine .head (.leaveOut List.mem_cons_self (by simp [Definition.Lacks])) ?_
    refine .head (.leaveOut (List.mem_cons_of_mem _ List.mem_cons_self) (by simp [Definition.Lacks])) ?_
    refine .head (.inside (.inr ⟨rfl, .object [] [] (.permute (.swap _ _ _))⟩)) ?_
    have hgone : Definition.Lacks [(some "begin".toList, .text "\""), (some "escape".toList, .text "\\")]
        "end" := by
      simp [Definition.Lacks]
    refine .head (.inside (.inr ⟨rfl, .object [] [] (.leaveOut List.mem_cons_self hgone)⟩)) ?_
    exact .single (.unknown .null (by simp [Definition.shape]))
  constructor
  · rw [← halike _ _ _ _ (hpretty [d]).parse?_eq hterse hrespelled]
    exact hread [d] _ (hpretty [d])
  · exact hincomplete _ _ _ hbare List.mem_cons_self (.extensions (List.forall_mem_singleton.mpr (by decide)))

end LineCensus
