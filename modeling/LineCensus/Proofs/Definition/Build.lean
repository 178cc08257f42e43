import LineCensus.Catalog.Build
import Mathlib.Data.List.Basic
import LineCensus.Proofs.Text.Trim
import LineCensus.Proofs.Text.WellFormed
import LineCensus.Proofs.Traversal

/-!
# `Proofs.Definition.Build` — what is wrong with a definition

A definition is built if nothing is wrong with it (`Definition.Sound`). Otherwise what is reported is the
first of its faults, in the order of the definition: name, extensions, line comments, block comments,
strings, the members of each list as listed, and the delimiters of a string before its escape.

`Definition.faults` lists all faults in that order, and says nothing of how they are come upon. That building
stops at the first one is a matter of each loop by itself (`mapM_eq_orFirst`) and of one loop after the other
(`orFirst_bind`).

## Contents

* `Definition.faults` — all that is wrong with a definition, in order; `Definition.faults_eq_nil_iff`;
* `Definition.language` — the language of a definition with nothing wrong;
* `Definition.build_eq_orFirst` — building is one or the other;
* `buildAll_eq_ok_iff`, `buildAll_eq_error_iff` — the definitions of a file, together;
* `build_reports_first_fault` — when a definition is built, into what, and what is reported otherwise; and the
  same for a file of definitions.
-/

namespace LineCensus

/-! ## Sound definitions -/

/-- The delimiters of a string are not empty, where they are given, and its escape is one character. -/
structure StringDefinition.Sound (s : StringDefinition) : Prop where
  opening : s.opening ≠ ""
  closing : s.closing ≠ some ""
  escape : ∀ e ∈ s.escape, e.length = 1

/-- A name with a character that is seen, an extension at least, and no empty delimiter. -/
structure Definition.Sound (d : Definition) : Prop where
  name : ∃ ch ∈ d.name.toList, ¬ Text.WhiteSpace ch
  extensions : d.extensions ≠ []
  lineComments : ∀ s ∈ d.lineComments, s ≠ ""
  blockComments : ∀ b ∈ d.blockComments, b.opening ≠ "" ∧ b.closing ≠ ""
  strings : ∀ s ∈ d.strings, s.Sound

/-! ## Faults in order -/

/-- The fault, if the condition for it holds. -/
def faultIf {ε : Type} (p : Prop) [Decidable p] (fault : ε) : List ε := if p then [fault] else []

theorem faultIf_eq_nil_iff {ε : Type} {p : Prop} [Decidable p] {fault : ε} :
    faultIf p fault = [] ↔ ¬ p := by
  unfold faultIf
  split <;> simp [*]

/-- What is wrong with the delimiter of a line comment. -/
def lineCommentFaults (opening : String) : List Construct.Error :=
  faultIf (opening = "") (.emptyDelimiter .lineComment)

/-- What is wrong with a block comment. -/
def BlockDefinition.faults (b : BlockDefinition) : List Construct.Error :=
  faultIf (b.opening = "" ∨ b.closing = "") (.emptyDelimiter .blockComment)

/-- What is wrong with a string: a delimiter first, then the escape. -/
def StringDefinition.faults (s : StringDefinition) : List Construct.Error :=
  faultIf (s.opening = "" ∨ s.closing = some "") (.emptyDelimiter .string) ++
    s.escape.toList.flatMap fun e => faultIf (e.length ≠ 1) (.invalidEscape e)

theorem StringDefinition.faults_eq_nil_iff (s : StringDefinition) : s.faults = [] ↔ s.Sound := by
  simp only [faults, List.append_eq_nil_iff, List.flatMap_eq_nil_iff, faultIf_eq_nil_iff, not_or,
    Option.mem_toList, not_not]
  constructor
  · rintro ⟨⟨hopening, hclosing⟩, hescape⟩
    exact ⟨hopening, hclosing, hescape⟩
  · rintro ⟨hopening, hclosing, hescape⟩
    exact ⟨⟨hopening, hclosing⟩, hescape⟩

namespace Definition

/-- What is wrong with the constructs of a definition. -/
def constructFaults (d : Definition) : List Construct.Error :=
  d.lineComments.flatMap lineCommentFaults ++ d.blockComments.flatMap BlockDefinition.faults ++
    d.strings.flatMap StringDefinition.faults

/-- All that is wrong with a definition, in order. -/
def faults (d : Definition) : List Failure :=
  faultIf (d.name.toList.all fun ch => decide (Text.WhiteSpace ch)) (.config .emptyLanguageName) ++
    faultIf (d.extensions = []) (.config (.noExtensions d.name)) ++
    d.constructFaults.map (.definition d.name)

/-- **A definition is sound if it has no faults.** -/
theorem faults_eq_nil_iff (d : Definition) : d.faults = [] ↔ d.Sound := by
  simp only [faults, constructFaults, List.append_eq_nil_iff, List.map_eq_nil_iff,
    List.flatMap_eq_nil_iff, faultIf_eq_nil_iff, lineCommentFaults, BlockDefinition.faults,
    StringDefinition.faults_eq_nil_iff, not_or]
  have hseen : ¬ (d.name.toList.all fun ch => decide (Text.WhiteSpace ch)) = true ↔
      ∃ ch ∈ d.name.toList, ¬ Text.WhiteSpace ch := by
    simp only [List.all_eq_true, decide_eq_true_eq, not_forall, exists_prop]
  constructor
  · rintro ⟨⟨hname, hextensions⟩, ⟨hlines, hblocks⟩, hstrings⟩
    exact ⟨hseen.mp hname, hextensions, hlines, hblocks, hstrings⟩
  · rintro ⟨hname, hextensions, hlines, hblocks, hstrings⟩
    exact ⟨⟨hseen.mpr hname, hextensions⟩, ⟨hlines, hblocks⟩, hstrings⟩

/-! ## Building -/

/-- The construct that a definition of a string describes. The escape is its only character. -/
def stringOf (s : StringDefinition) : Construct :=
  .string s.opening.toList (s.closing.getD s.opening).toList (s.escape.bind (·.toList.head?))

/-- The constructs in order: line comments, block comments, strings. -/
def describedConstructs (d : Definition) : List Construct :=
  d.lineComments.map (fun s => .lineComment s.toList) ++
    d.blockComments.map (fun b => .blockComment b.opening.toList b.closing.toList) ++
    d.strings.map stringOf

/-- The language that a definition describes: its name as it is, its extensions in lower case and without
the dots before them, and its constructs. -/
def language (d : Definition) : Language where
  name := d.name
  extensions := d.extensions.map fun e =>
    String.ofList (Text.lower (e.toList.dropWhile (· == '.')))
  constructs := d.describedConstructs

theorem extensionKey_bareExtension (e : String) :
    extensionKey (bareExtension e) = String.ofList (Text.lower (e.toList.dropWhile (· == '.'))) := by
  rw [extensionKey, bareExtension, String.toList_ofList]

/-- A language is defined with its extensions less their dots, and puts them in lower case itself. -/
theorem language_eq_define (d : Definition) :
    d.language = .define d.name (d.extensions.map bareExtension) d.describedConstructs := by
  rw [Language.define, List.map_map, language, Language.mk.injEq]
  refine ⟨rfl, List.map_congr_left fun e _ => ?_, rfl⟩
  exact (extensionKey_bareExtension e).symm

theorem lineComment?_eq_orFirst (s : String) :
    Construct.lineComment? s.toList = orFirst (lineCommentFaults s) (.lineComment s.toList) := by
  by_cases hempty : s = "" <;>
    simp [Construct.lineComment?, lineCommentFaults, faultIf, orFirst, hempty]

theorem blockComment?_eq_orFirst (b : BlockDefinition) :
    Construct.blockComment? b.opening.toList b.closing.toList =
      orFirst b.faults (.blockComment b.opening.toList b.closing.toList) := by
  by_cases hempty : b.opening = "" ∨ b.closing = "" <;>
    simp [Construct.blockComment?, BlockDefinition.faults, faultIf, orFirst, hempty]

/-- The delimiters are looked at first. An escape is one character exactly if its characters are a list of
one. -/
theorem stringConstruct_eq_orFirst (s : StringDefinition) :
    stringConstruct s = orFirst s.faults (stringOf s) := by
  obtain ⟨opening, closing, escape⟩ := s
  have hempty : (opening = "" ∨ closing.getD opening = "") ↔ (opening = "" ∨ closing = some "") := by
    cases closing <;> simp
  unfold stringConstruct Construct.string? StringDefinition.faults faultIf stringOf
  simp only [Bool.or_eq_true, List.isEmpty_iff, String.toList_eq_nil_iff, hempty]
  by_cases hdelimiters : opening = "" ∨ closing = some ""
  · simp only [if_pos hdelimiters]
    rfl
  · simp only [if_neg hdelimiters]
    cases escape with
    | none => rfl
    | some e =>
      obtain ⟨text, rfl⟩ : ∃ text, e = String.ofList text := ⟨e.toList, String.ofList_toList.symm⟩
      -- one character, none, or more than one
      match text with
      | [ch] => simp [orFirst]
      | [] => simp [orFirst]
      | ch :: ch' :: rest => simp [orFirst]

theorem constructs_eq_orFirst (d : Definition) :
    d.constructs = orFirst d.constructFaults d.describedConstructs := by
  rw [constructs, mapM_eq_orFirst lineComment?_eq_orFirst, mapM_eq_orFirst blockComment?_eq_orFirst,
    mapM_eq_orFirst stringConstruct_eq_orFirst, constructFaults, List.append_assoc]
  exact orFirst_bind (orFirst_bind orFirst_bind_pure)

/-- **Building a definition** gives its language, or reports its first fault. -/
theorem build_eq_orFirst (d : Definition) : d.build = orFirst d.faults d.language := by
  unfold build faults faultIf
  simp only [Text.isBlankText_eq_all, List.isEmpty_iff]
  split
  · rfl
  split
  · rfl
  rw [constructs_eq_orFirst, language_eq_define, List.nil_append, List.nil_append]
  cases d.constructFaults <;> rfl

/-- A definition is built if it is sound, into its language. -/
theorem build_eq_ok_iff {d : Definition} {language : Language} :
    d.build = .ok language ↔ d.Sound ∧ language = d.language := by
  rw [build_eq_orFirst, orFirst_eq_ok_iff, faults_eq_nil_iff, eq_comm (a := language)]

/-- A definition is refused for its first fault. -/
theorem build_eq_error_iff {d : Definition} {failure : Failure} :
    d.build = .error failure ↔ d.faults.head? = some failure := by
  rw [build_eq_orFirst, orFirst_eq_error_iff]

end Definition

/-! ## Files of definitions -/

variable {definitions : List Definition}

/-- Definitions are built together if all of them are sound. -/
theorem buildAll_eq_ok_iff {languages : List Language} :
    buildAll definitions = .ok languages ↔
      (∀ d ∈ definitions, d.Sound) ∧ languages = definitions.map Definition.language := by
  rw [buildAll, mapM_eq_orFirst Definition.build_eq_orFirst, orFirst_eq_ok_iff,
    List.flatMap_eq_nil_iff, eq_comm (a := languages)]
  simp only [Definition.faults_eq_nil_iff]

/-- Otherwise the first one that is not sound decides. -/
theorem buildAll_eq_error_iff {failure : Failure} :
    buildAll definitions = .error failure ↔
      ∃ before d after, definitions = before ++ d :: after ∧ (∀ b ∈ before, b.Sound) ∧
        d.faults.head? = some failure := by
  simp only [buildAll, mapM_eq_error_iff, Definition.build_eq_ok_iff, Definition.build_eq_error_iff,
    exists_and_left, exists_eq, and_true]

/-- What a definitions file gives is what is built of its definitions, once they are read. -/
theorem loadDefinitions_eq_buildAll {t : FileTree} {p : Path} {format : DefinitionFormat}
    {text : List Char} (hformat : DefinitionFormat.ofPath p = .ok format)
    (htext : t.readText p = .ok text) (hdefinitions : format.parse text = .ok definitions) :
    loadDefinitions t p = buildAll definitions := by
  have hread : (t.readText p).mapError (Failure.unreadable p) = .ok text := by rw [htext]; rfl
  rw [loadDefinitions, hformat]
  show ((t.readText p).mapError (Failure.unreadable p) >>= fun text => format.parse text >>= buildAll) = _
  rw [hread]
  show (format.parse text >>= buildAll) = _
  rw [hdefinitions]
  rfl

/-- A text is read where its bytes are. -/
theorem readText_of_read {t : FileTree} {p : Path} {text : List Char}
    (h : t.read p = .ok (Text.encode text)) : t.readText p = .ok text := by
  rw [FileTree.readText, h]
  show (Text.decode? (Text.encode text)).elim _ _ = _
  rw [decode?_eq_some_iff.mpr rfl]
  rfl

/-- **What is built of definitions, and what is reported of them.** A definition is built exactly if it is
sound, and into the language that it describes; otherwise its first fault is reported. A file whose
definitions are read gives all their languages in order, or the first fault of the first definition that
has any. -/
theorem build_reports_first_fault :
    (∀ (d : Definition) (language : Language),
      d.build = .ok language ↔ d.Sound ∧ language = d.language) ∧
    (∀ (d : Definition) (failure : Failure),
      d.build = .error failure ↔ d.faults.head? = some failure) ∧
    ∀ (t : FileTree) (p : Path) (format : DefinitionFormat) (text : List Char)
      (definitions : List Definition),
      DefinitionFormat.ofPath p = .ok format → t.readText p = .ok text →
      format.parse text = .ok definitions →
        (∀ languages, loadDefinitions t p = .ok languages ↔
          (∀ d ∈ definitions, d.Sound) ∧ languages = definitions.map Definition.language) ∧
        ∀ failure, loadDefinitions t p = .error failure ↔
          ∃ before d after, definitions = before ++ d :: after ∧ (∀ b ∈ before, b.Sound) ∧
            d.faults.head? = some failure := by
  refine ⟨fun _ _ => Definition.build_eq_ok_iff, fun _ _ => Definition.build_eq_error_iff, ?_⟩
  intro t p format text definitions hformat htext hdefinitions
  rw [loadDefinitions_eq_buildAll hformat htext hdefinitions]
  exact ⟨fun _ => buildAll_eq_ok_iff, fun _ => buildAll_eq_error_iff⟩

/-- A file with a sound definition, and one with another definition behind it, whose string has an empty
delimiter and an escape of two characters. -/
theorem build_reports_first_fault_two_faults :
    let comments := "\"line_comment\":[\"--\"],\"block_comment\":[\x7b\"begin\":\"<\",\"end\":\">\"\x7d]"
    let sound := "\x7b\"name\":\"Lua\",\"extensions\":[\"..LUA\"]," ++ comments ++
      ",\"strings\":[\x7b\"begin\":\"|\",\"escape\":\"/\"\x7d]\x7d"
    let faulty := "\x7b\"name\":\"B\",\"extensions\":[\"b\"]," ++
      "\"strings\":[\x7b\"begin\":\"q\",\"end\":\"\",\"escape\":\"ab\"\x7d]\x7d"
    let text := ("[" ++ sound ++ "]").toList
    let text' := ("[" ++ sound ++ "," ++ faulty ++ "]").toList
    let t : FileTree :=
      { top := .directory [((Path.ofString "l.json").bytes, .ofBytes (Text.encode text)),
          ((Path.ofString "m.json").bytes, .ofBytes (Text.encode text'))] }
    let lua : Definition := ⟨"Lua", ["..LUA"], ["--"], [⟨"<", ">"⟩], [⟨"|", none, some "/"⟩]⟩
    let broken : Definition := ⟨"B", ["b"], [], [], [⟨"q", some "", some "ab"⟩]⟩
    let built : Language := ⟨"Lua", ["lua"],
      [.lineComment ['-', '-'], .blockComment ['<'] ['>'], .string ['|'] ['|'] (some '/')]⟩
    t.readText (.ofString "l.json") = .ok text ∧ DefinitionFormat.json.parse text = .ok [lua] ∧
      t.readText (.ofString "m.json") = .ok text' ∧ DefinitionFormat.json.parse text' = .ok [lua, broken] ∧
      lua.build = .ok built ∧ loadDefinitions t (.ofString "l.json") = .ok [built] ∧
      loadDefinitions t (.ofString "m.json") = .error (.definition "B" (.emptyDelimiter .string)) := by
  -- the bytes are not looked at on the way to them
  have hread (content content' : List UInt8) :
      let t : FileTree := { top := .directory [((Path.ofString "l.json").bytes, .ofBytes content),
        ((Path.ofString "m.json").bytes, .ofBytes content')] }
      t.read (.ofString "l.json") = .ok content ∧ t.read (.ofString "m.json") = .ok content' :=
    ⟨rfl, rfl⟩
  intro comments sound faulty text text' t lua broken built
  obtain ⟨hbytes, hbytes'⟩ := hread (Text.encode text) (Text.encode text')
  have htext : t.readText (.ofString "l.json") = .ok text := readText_of_read hbytes
  have htext' : t.readText (.ofString "m.json") = .ok text' := readText_of_read hbytes'
  have hformat : DefinitionFormat.ofPath (.ofString "l.json") = .ok .json := by decide +kernel
  have hformat' : DefinitionFormat.ofPath (.ofString "m.json") = .ok .json := by decide +kernel
  have hdefinitions : DefinitionFormat.json.parse text = .ok [lua] := by decide +kernel
  have hdefinitions' : DefinitionFormat.json.parse text' = .ok [lua, broken] := by decide +kernel
  obtain ⟨hbuild, hrefused, hload⟩ := build_reports_first_fault
  have hlua : lua.Sound := {
    name := ⟨'L', by simp [lua], by decide⟩
    extensions := List.cons_ne_nil _ _
    lineComments := by simp [lua]
    blockComments := by simp [lua]
    strings := by
      rw [List.forall_mem_singleton]
      refine ⟨by decide, by decide, ?_⟩
      rintro e ⟨⟩
      rfl }
  have hlanguage : built = lua.language := by decide +kernel
  have hgood := (hload t _ .json text [lua] hformat htext hdefinitions).1
  have hbad := (hload t _ .json text' [lua, broken] hformat' htext' hdefinitions').2
  refine ⟨htext, hdefinitions, htext', hdefinitions', (hbuild lua built).mpr ⟨hlua, hlanguage⟩, ?_, ?_⟩
  · exact (hgood _).mpr ⟨by simpa using hlua, congrArg (fun l => [l]) hlanguage⟩
  · have hfirst := (hrefused broken (.definition "B" (.emptyDelimiter .string))).mp (by decide +kernel)
    exact (hbad _).mpr ⟨[lua], broken, [], rfl, by simpa using hlua, hfirst⟩

end LineCensus
