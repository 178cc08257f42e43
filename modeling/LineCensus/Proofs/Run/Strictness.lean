import LineCensus.Proofs.Census.Order
import LineCensus.Proofs.Traversal
import LineCensus.Run

/-!
# `Proofs.Run.Strictness` — the strict run and the lenient one

The two kinds of run take different ways: a strict one stops at the first file that fails, a lenient one
goes on and keeps files that fail apart. Both go over what a walk delivers, in whatever order, so what is
said here is said of every answer that a run may give (`Run.Answers`), the two runs with orders of their
own. A strict answer is then known from the lenient census: the same records, or one of the failures.

## Contents

* `Census.StrictAnswer` — the strict answers that go with a lenient census
  (`Census.strictAnswer_collect`);
* `Rule.Malformed`, `WalkOptions.Refused` — the walks that find nothing, and that these are the ones
  that fail (`walk_fails_iff`);
* `Run.Answers` — what a run may answer; `run` gives one such answer (`Run.answers_run`);
* `Run.strict_agrees_with_lenient` — the two kinds of run side by side.
-/

namespace LineCensus

/-! ## A census and its strict answers -/

namespace Census

variable {c : Catalog} {s : Census} {found delivery delivery' : List Found} {walkFailure : Option Failure}
  {answer : Except Failure Census}

/-- The strict answers that go with a lenient census: its records, up to ties, if nothing failed, and
otherwise one of its failures. -/
inductive StrictAnswer (s : Census) : Except Failure Census → Prop where
  | clean {s' : Census} :
      s.failures = [] → s'.failures = [] → Exchanged s'.records s.records → StrictAnswer s (.ok s')
  | failing {path : Path} {failure : Failure} :
      (path, failure) ∈ s.failures → StrictAnswer s (.error failure)

/-- A strict answer is a census exactly if the lenient census has no failures. -/
theorem StrictAnswer.ok_iff (h : s.StrictAnswer answer) : (∃ s', answer = .ok s') ↔ s.failures = [] := by
  cases h with
  | clean hnone _ _ => exact ⟨fun _ => hnone, fun _ => ⟨_, rfl⟩⟩
  | failing hmem =>
    refine ⟨?_, fun hnone => ?_⟩
    · rintro ⟨s', hs'⟩
      cases hs'
    · rw [hnone] at hmem
      cases hmem

/-- Where the lenient census has one failure only, that is the strict answer. -/
theorem StrictAnswer.eq_of_failures {path : Path} {failure : Failure} (h : s.StrictAnswer answer)
    (hone : s.failures = [(path, failure)]) : answer = .error failure := by
  cases h with
  | clean hnone _ _ => rw [hone] at hnone; cases hnone
  | failing hmem =>
    rw [hone, List.mem_singleton] at hmem
    cases hmem
    rfl

/-- Files that are all counted without failure have the records that counting gives, and no others. -/
theorem lenient_of_forall₂ {records : List (Option FileRecord)}
    (h : List.Forall₂ (fun (f : Found) r => f.count c = .ok r) found records) :
    lenient c found = ⟨records.filterMap id, []⟩ := by
  induction h with
  | nil => rfl
  | @cons f r found records hcount _ ih =>
    rw [← List.singleton_append, lenient_append, ih]
    cases r <;> simp [lenient, recordOf?, failureOf?, hcount]

theorem lenient_of_strictRecords_ok {records : List FileRecord}
    (h : strictRecords c found = .ok records) : lenient c found = ⟨records, []⟩ := by
  rw [strictRecords] at h
  cases hall : found.mapM fun f : Found => f.count c with
  | error failure => rw [hall] at h; cases h
  | ok counted =>
    rw [hall] at h
    cases h
    exact lenient_of_forall₂ (mapM_eq_ok_iff.mp hall)

theorem exists_of_strictRecords_error {failure : Failure} (h : strictRecords c found = .error failure) :
    ∃ path, (path, failure) ∈ (lenient c found).failures := by
  rw [strictRecords] at h
  cases hall : found.mapM fun f : Found => f.count c with
  | ok counted => rw [hall] at h; cases h
  | error failure' =>
    rw [hall] at h
    cases h
    obtain ⟨f, hmem, hcount⟩ := exists_of_mapM_eq_error hall
    exact ⟨f.path, List.mem_filterMap.mpr ⟨f, hmem, failureOf?_eq_some.mpr ⟨failure, hcount, rfl⟩⟩⟩

/-- The strict answer over one delivery goes with the lenient census over another. -/
theorem strictAnswer_collect (h : delivery.Perm delivery') :
    (ofFound c delivery' walkFailure).StrictAnswer (collect true c delivery walkFailure) := by
  have hfailures : (ofFound c delivery walkFailure).failures.Perm
      (ofFound c delivery' walkFailure).failures := perm_failures_ofFound h
  cases hstrict : strictRecords c delivery with
  | error failure =>
    -- Some file fails; the lenient run lists it, whatever became of the walk.
    have hcollect : collect true c delivery walkFailure = .error failure := by
      simp only [collect, if_true, hstrict]
    obtain ⟨path, hmem⟩ := exists_of_strictRecords_error hstrict
    rw [hcollect]
    exact .failing (hfailures.subset (List.mem_append_left _ hmem))
  | ok records =>
    have hlenient : lenient c delivery = ⟨records, []⟩ := lenient_of_strictRecords_ok hstrict
    cases walkFailure with
    | some failure =>
      have hcollect : collect true c delivery (some failure) = .error failure := by
        simp only [collect, if_true, hstrict]
      rw [hcollect]
      exact .failing (hfailures.subset (List.mem_append_right _ List.mem_cons_self))
    | none =>
      have hcollect : collect true c delivery none = .ok (ofFound c delivery none) := by
        simp only [collect, if_true, hstrict, ofFound, hlenient, Option.toList_none, List.map_nil,
          List.append_nil]
      have hnone : (ofFound c delivery none).failures = [] := by
        simp only [ofFound, sorted, hlenient, Option.toList_none, List.map_nil, List.append_nil]
      rw [hcollect]
      refine .clean ?_ hnone (exchanged_ofFound h)
      rw [hnone] at hfailures
      exact List.nil_perm.mp hfailures

/-- Where no file is found, only what ended the walk is listed. -/
theorem ofFound_nil :
    ofFound c [] walkFailure = ⟨[], walkFailure.toList.map fun failure => (walkPath, failure)⟩ := by
  simp only [ofFound, sorted, lenient, List.filterMap_nil, List.nil_append, sortByPath,
    List.mergeSort_nil]

end Census

/-! ## Walks that find nothing -/

namespace Rule

/-- The text of the pattern in a line. -/
def globText (line : List Char) : List Char :=
  let (pattern, _, anchored) := splitMark (trimLine line)
  wholePattern anchored (splitSlash pattern).1

/-- A line with a pattern that cannot be read: no comment, not blank, and with a fault in its text. -/
def Malformed (line : List Char) : Prop :=
  line.head? ≠ some '#' ∧ trimLine line ≠ [] ∧
    ∃ fault, Glob.parse false (globText line) = .error fault

/-- A line that is no comment and not blank is read as its pattern is. -/
theorem parse_eq {lenient : Bool} {line : List Char} (hcomment : line.head? ≠ some '#')
    (hblank : trimLine line ≠ []) :
    parse lenient line = (Glob.parse lenient (globText line)).map fun glob =>
      some ⟨glob, (splitMark (trimLine line)).2.1, (splitSlash (splitMark (trimLine line)).1).2⟩ := by
  rw [parse, if_neg hcomment]
  exact if_neg (mt List.isEmpty_iff.mp hblank)

theorem malformed_iff {line : List Char} :
    Malformed line ↔ ∃ fault, parse false line = .error fault := by
  by_cases hcomment : line.head? = some '#'
  · simp [Malformed, parse, hcomment]
  · by_cases hblank : trimLine line = []
    · simp [Malformed, parse, hblank]
    · rw [parse_eq hcomment hblank, Malformed]
      cases Glob.parse false (globText line) <;> simp [Except.map, hcomment, hblank]

end Rule

/-- The rules of lines are refused exactly if some line is malformed. -/
theorem Overrides.rulesOfLines_fails_iff {lines : List (List Char)} :
    (∃ failure, rulesOfLines lines = .error failure) ↔ ∃ line ∈ lines, Rule.Malformed line := by
  have hline {line : List Char} :
      (∃ failure, ruleOfLine line = .error failure) ↔ Rule.Malformed line := by
    rw [Rule.malformed_iff, ruleOfLine]
    cases Rule.parse false line <;> simp [Except.mapError]
  rw [rulesOfLines]
  cases hall : lines.mapM ruleOfLine with
  | error failure =>
    obtain ⟨line, hmem, hfails⟩ := exists_of_mapM_eq_error hall
    exact ⟨fun _ => ⟨line, hmem, hline.mp ⟨failure, hfails⟩⟩, fun _ => ⟨failure, rfl⟩⟩
  | ok rules =>
    constructor
    · rintro ⟨failure, h⟩
      cases h
    · rintro ⟨line, hmem, hmalformed⟩
      obtain ⟨failure, hfails⟩ := hline.mpr hmalformed
      obtain ⟨rule, hrule⟩ := ok_of_mapM_eq_ok hall hmem
      rw [hfails] at hrule
      cases hrule

namespace WalkOptions

/-- A walk that is refused: there is a root, and some root does not exist or some pattern is malformed.
What is left out is written behind a mark. -/
def Refused (o : WalkOptions) (t : FileTree) : Prop :=
  o.roots ≠ [] ∧
    ((∃ root ∈ o.roots, t.has root = false) ∨ (∃ pattern ∈ o.includes, Rule.Malformed pattern) ∨
      ∃ pattern ∈ o.excludes, Rule.Malformed ('!' :: pattern))

theorem exists_malformed_overrideLine_iff {includes excludes : List (List Char)} :
    (∃ line ∈ overrideLines includes excludes, Rule.Malformed line) ↔
      (∃ pattern ∈ includes, Rule.Malformed pattern) ∨
        ∃ pattern ∈ excludes, Rule.Malformed ('!' :: pattern) := by
  simp only [overrideLines, List.mem_append, List.mem_map, or_and_right, exists_or,
    exists_exists_and_eq_and]

end WalkOptions

/-- A walk fails exactly if it is refused. -/
theorem walk_fails_iff {t : FileTree} {o : WalkOptions} (filter : ExtensionFilter) :
    (∃ failure, walk t o filter = .error failure) ↔ o.Refused t := by
  rw [walk, WalkOptions.Refused, ← WalkOptions.exists_malformed_overrideLine_iff,
    ← Overrides.rulesOfLines_fails_iff]
  split
  · simp [*]
  · rename_i first rest hroots
    cases hmissing : o.roots.find? fun root => !t.has root with
    | some missing =>
      have hroot : ∃ root ∈ o.roots, t.has root = false :=
        ⟨missing, List.mem_of_find?_eq_some hmissing, by simpa using List.find?_some hmissing⟩
      have hnonempty : o.roots ≠ [] := by simp [hroots]
      exact ⟨fun _ => ⟨hnonempty, .inl hroot⟩, fun _ => ⟨_, rfl⟩⟩
    | none =>
      have hall : ¬ ∃ root ∈ o.roots, t.has root = false := by
        simpa using List.find?_eq_none.mp hmissing
      have hnonempty : o.roots ≠ [] := by simp [hroots]
      simp only [hnonempty, hall, ne_eq, not_false_eq_true, true_and, false_or, Overrides.build]
      cases Overrides.rulesOfLines (overrideLines o.includes o.excludes) <;> simp [Except.map]

/-! ## Runs -/

namespace Run

variable {t : FileTree} {o : WalkOptions} {filter : ExtensionFilter} {config : Config}
  {answer : Except Failure Census}

/-- What a run may answer. Without languages it answers at once; otherwise it answers with the census of a
walk that is refused, or of files that a walk delivers, in any order. -/
inductive Answers (t : FileTree) (config : Config) : Except Failure Census → Prop where
  | unbuilt {failure : Failure} :
      buildCatalog t config = .error failure → Answers t config (.error failure)
  | refused {c : Catalog} {failure : Failure} :
      buildCatalog t config = .ok c → walk t config.walk config.filter = .error failure →
      Answers t config (Census.collect config.strict c [] (some failure))
  | delivered {c : Catalog} {found delivery : List Found} :
      buildCatalog t config = .ok c → walk t config.walk config.filter = .ok found →
      found.Perm delivery → Answers t config (Census.collect config.strict c delivery none)

/-- The run that takes files in the order of the walk gives one of the answers. -/
theorem answers_run (t : FileTree) (config : Config) : Answers t config (run t config) := by
  cases hbuild : buildCatalog t config with
  | error failure =>
    have hrun : run t config = .error failure := by
      rw [run, hbuild]
      rfl
    rw [hrun]
    exact .unbuilt hbuild
  | ok c =>
    have hrun : run t config = countWalk t config c := by
      rw [run, hbuild]
      rfl
    rw [hrun, countWalk]
    cases hwalk : walk t config.walk config.filter with
    | error failure => exact .refused hbuild hwalk
    | ok found => exact .delivered hbuild hwalk (.refl found)

/-- The languages of a run depend on the text of the definitions and on nothing else in the tree, nor on
where files are looked for. -/
theorem buildCatalog_congr {t t' : FileTree} {config config' : Config}
    (haliases : config'.aliases = config.aliases) (hdefinitions : config'.definitions = config.definitions)
    (htext : ∀ p, config.definitions = some p → t'.readText p = t.readText p) :
    buildCatalog t' config' = buildCatalog t config := by
  rw [buildCatalog, buildCatalog, haliases, hdefinitions]
  cases hfile : config.definitions with
  | none => rfl
  | some p =>
    have hload : loadDefinitions t' p = loadDefinitions t p := by
      rw [loadDefinitions, loadDefinitions, htext p hfile]
    simp only [hload]

/-- Without languages there is one answer only. -/
theorem answers_iff_of_unbuilt {failure : Failure} (h : buildCatalog t config = .error failure) :
    Answers t config answer ↔ answer = .error failure := by
  constructor
  · intro hanswer
    cases hanswer with
    | unbuilt h' => rw [h] at h'; cases h'; rfl
    | refused h' | delivered h' => rw [h] at h'; cases h'
  · rintro rfl
    exact .unbuilt h

/-- What a walk hands over: the files that it finds, or none of them and why it is refused. -/
def handedOver (t : FileTree) (o : WalkOptions) (filter : ExtensionFilter) : List Found × Option Failure :=
  match walk t o filter with
  | .ok found => (found, none)
  | .error failure => ([], some failure)

theorem handedOver_of_ok {found : List Found} (h : walk t o filter = .ok found) :
    handedOver t o filter = (found, none) := by
  rw [handedOver, h]

theorem handedOver_of_error {failure : Failure} (h : walk t o filter = .error failure) :
    handedOver t o filter = ([], some failure) := by
  rw [handedOver, h]

/-- With languages, an answer is the census of what the walk hands over, in some order. -/
theorem Answers.exists_delivery {c : Catalog} {strict : Bool} (hbuild : buildCatalog t config = .ok c)
    (h : Answers t { config with strict } answer) :
    ∃ delivery, (handedOver t config.walk config.filter).1.Perm delivery ∧
      answer = Census.collect strict c delivery (handedOver t config.walk config.filter).2 := by
  cases h with
  | unbuilt hunbuilt => cases hbuild.symm.trans hunbuilt
  | refused hbuild' hwalk =>
    cases hbuild.symm.trans hbuild'
    rw [handedOver_of_error hwalk]
    exact ⟨[], .refl [], rfl⟩
  | @delivered _ _ delivery hbuild' hwalk hperm =>
    cases hbuild.symm.trans hbuild'
    rw [handedOver_of_ok hwalk]
    exact ⟨delivery, hperm, rfl⟩

/-- A lenient run answers with a census, and a strict one with an answer that goes with it. -/
theorem Answers.exists_census {c : Catalog} {strict lenient : Except Failure Census}
    (hbuild : buildCatalog t config = .ok c)
    (hstrict : Answers t { config with strict := true } strict)
    (hlenient : Answers t { config with strict := false } lenient) :
    ∃ s, lenient = .ok s ∧ s.StrictAnswer strict := by
  obtain ⟨delivery, hperm, rfl⟩ := hstrict.exists_delivery hbuild
  obtain ⟨delivery', hperm', rfl⟩ := hlenient.exists_delivery hbuild
  exact ⟨_, Census.collect_eq_ofFound, Census.strictAnswer_collect (hperm.symm.trans hperm')⟩

/-- The census of a walk that is refused holds no file, and one failure. -/
theorem Answers.eq_of_refused {c : Catalog} {lenient : Except Failure Census}
    (hbuild : buildCatalog t config = .ok c) (hrefused : config.walk.Refused t)
    (hlenient : Answers t { config with strict := false } lenient) :
    ∃ failure, lenient = .ok ⟨[], [(Path.ofString "<walk>", failure)]⟩ := by
  obtain ⟨failure, hwalk⟩ := (walk_fails_iff config.filter).mpr hrefused
  obtain ⟨delivery, hperm, rfl⟩ := hlenient.exists_delivery hbuild
  rw [handedOver_of_error hwalk] at hperm ⊢
  rw [List.nil_perm.mp hperm, Census.collect_eq_ofFound, Census.ofFound_nil]
  exact ⟨failure, rfl⟩

/-- **A strict run and a lenient one agree.** If there are languages, let both run over the same tree, each
with an order of its own. The lenient run answers with a census. The strict one does so too exactly if
nothing failed, and then with the same records, up to ties of paths; otherwise it answers with one of the
failures. A walk that is refused reports no file at all, and one failure, in the place of a path `<walk>`.
Without languages every run answers with the same failure, whatever there is in the tree besides the
definitions, wherever files are looked for. -/
theorem strict_agrees_with_lenient (t : FileTree) (config : Config) :
    (∀ c, buildCatalog t config = .ok c →
      ∀ strict lenient, Answers t { config with strict := true } strict →
        Answers t { config with strict := false } lenient →
          ∃ s, lenient = .ok s ∧
            ((∃ s', strict = .ok s') ↔ s.failures = []) ∧
            (∀ s', strict = .ok s' → s'.failures = [] ∧ Exchanged s'.records s.records) ∧
            (∀ failure, strict = .error failure → ∃ path, (path, failure) ∈ s.failures) ∧
            (config.walk.Refused t → s.records = [] ∧
              ∃ failure, s.failures = [(Path.ofString "<walk>", failure)] ∧
                strict = .error failure)) ∧
    (∀ failure, buildCatalog t config = .error failure →
      ∀ t', (∀ p, config.definitions = some p → t'.readText p = t.readText p) →
        ∀ walk filter strict answer,
          Answers t' { config with walk, filter, strict } answer ↔ answer = .error failure) ∧
    ∀ strict, Answers t { config with strict } (run t { config with strict }) := by
  refine ⟨?_, ?_, fun strict => answers_run t _⟩
  · intro c hbuild strict lenient hstrict hlenient
    obtain ⟨s, hs, hanswer⟩ := hstrict.exists_census hbuild hlenient
    refine ⟨s, hs, hanswer.ok_iff, ?_, ?_, ?_⟩
    · rintro s' rfl
      cases hanswer with
      | clean _ hnone hrecords => exact ⟨hnone, hrecords⟩
    · rintro failure rfl
      cases hanswer with
      | failing hmem => exact ⟨_, hmem⟩
    · intro hrefused
      obtain ⟨failure, hempty⟩ := hlenient.eq_of_refused hbuild hrefused
      cases hs.symm.trans hempty
      exact ⟨rfl, failure, rfl, hanswer.eq_of_failures rfl⟩
  · intro failure hbuild t' htext walk filter strict answer
    have hbuild' : buildCatalog t' { config with walk, filter, strict } = .error failure :=
      (buildCatalog_congr rfl rfl htext).trans hbuild
    exact answers_iff_of_unbuilt hbuild'

/-- A root that is missing beside one that is there, and an alias that names no extension. -/
theorem strict_agrees_with_lenient_missing_root :
    let t : FileTree := { top := .directory [(Path.ofString "a.sh" |>.bytes, .ofBytes [0x23])] }
    let config : Config := { walk := { roots := [.ofString "a.sh", .ofString "gone"] } }
    let nameless : Config := { config with aliases := [("", "sh")] }
    (∃ c, buildCatalog t config = .ok c) ∧ config.walk.Refused t ∧
    (∃ failure, run t { config with strict := false } = .ok ⟨[], [(Path.ofString "<walk>", failure)]⟩ ∧
      run t { config with strict := true } = .error failure) ∧
    buildCatalog t nameless = .error (.extensionMapping "" "sh") ∧
    ∀ strict, run t { nameless with strict } = .error (.extensionMapping "" "sh") := by
  intro t config nameless
  have hbuild : ∃ c, buildCatalog t config = .ok c := ⟨_, rfl⟩
  have hmissing : t.has (.ofString "gone") = false := by decide +kernel
  have hrefused : config.walk.Refused t :=
    ⟨List.cons_ne_nil _ _, .inl ⟨.ofString "gone", by simp [config], hmissing⟩⟩
  have hnameless : buildCatalog t nameless = .error (.extensionMapping "" "sh") := by
    rfl
  obtain ⟨c, hc⟩ := hbuild
  obtain ⟨hbuilt, -, hrun⟩ := strict_agrees_with_lenient t config
  obtain ⟨s, hs, -, -, -, hwalk⟩ := hbuilt c hc _ _ (hrun true) (hrun false)
  obtain ⟨hrecords, failure, hfailures, hstrict⟩ := hwalk hrefused
  refine ⟨⟨c, hc⟩, hrefused, ⟨failure, ?_, hstrict⟩, hnameless, fun strict => ?_⟩
  · rw [hs, ← hrecords, ← hfailures]
  · obtain ⟨-, hunbuilt, hrun⟩ := strict_agrees_with_lenient t nameless
    exact (hunbuilt _ hnameless t (fun _ _ => rfl) _ _ _ _).mp (hrun strict)

end Run

end LineCensus
