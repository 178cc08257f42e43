import LineCensus.Proofs.Run.Strictness
import LineCensus.Proofs.Text.Trim

/-!
# `Proofs.Ignore.Override` — the last pattern of a walk that holds decides

Patterns to look at and patterns to leave out are lines of one list, the second behind the first and each of
them behind a mark. A rule of a marked line always means that an entry is left out, whatever stands behind
the mark; so of two patterns that hold, one of each sort, the one to leave out comes later and wins.

A pattern to look at means what it says only if it is plain (`Rule.IsPlain`): a comment and a blank line hold
nothing, and one that has a mark of its own leaves out as well. Of a plain line and the same line behind a
mark the rules differ in nothing but their verdict (`Rule.parse_marked`).

## Contents

* `Rule.IsPlain`, `Rule.parse_marked`, `Rule.verdict_of_parse_plain` — lines with a mark and without;
* `Overrides.rule?`, `Overrides.lineHolds` — the rule of a line, and whether it holds of an entry;
* `Overrides.set_verdict?_eq` — the last line that holds decides;
* `Overrides.verdict?_of_excluded`, `Overrides.exists_last_include` — what wins, and what is left.
-/

namespace LineCensus

/-! ## Lines with a mark -/

namespace Rule

variable {line pattern : List Char} {lenient : Bool} {r : Rule}

/-- A line that is a pattern as it stands: something in it is no white space, and it has no mark and is no
comment. -/
def IsPlain (line : List Char) : Prop :=
  Text.isBlankText line = false ∧ line.head? ≠ some '!' ∧ line.head? ≠ some '#'

instance : DecidablePred IsPlain := fun line =>
  inferInstanceAs (Decidable (Text.isBlankText line = false ∧ line.head? ≠ some '!' ∧ line.head? ≠ some '#'))

theorem trimLine_marked : trimLine ('!' :: pattern) = '!' :: trimLine pattern := by
  have hsuffix : ['\\', ' '].isSuffixOf ('!' :: pattern) = ['\\', ' '].isSuffixOf pattern := by
    rw [Bool.eq_iff_iff, List.isSuffixOf_iff_suffix, List.isSuffixOf_iff_suffix, List.suffix_cons_iff]
    simp
  rw [trimLine, trimLine, hsuffix]
  split
  · rfl
  · exact Text.trimEnd_append_cons (s := []) (by decide)

/-- What is trimmed from a line that is not blank begins as the line does. -/
theorem head?_trimLine (h : Text.isBlankText line = false) :
    trimLine line ≠ [] ∧ (trimLine line).head? = line.head? := by
  have hkept : ∃ after, Text.isBlankText after = true ∧ line = trimLine line ++ after := by
    rw [trimLine]
    split
    · exact ⟨[], rfl, (List.append_nil line).symm⟩
    · exact Text.exists_trimEnd line
  obtain ⟨after, hblank, hline⟩ := hkept
  have hnonempty : trimLine line ≠ [] := by
    intro hnil
    rw [hnil, List.nil_append] at hline
    rw [hline, hblank] at h
    cases h
  refine ⟨hnonempty, ?_⟩
  conv_rhs => rw [hline]
  exact (List.head?_append_of_ne_nil _ hnonempty).symm

/-- **A marked line leaves out**, whatever stands behind the mark. -/
theorem verdict_of_parse_marked (h : parse lenient ('!' :: pattern) = .ok (some r)) : r.verdict = .keep := by
  have hmark : (splitMark ('!' :: trimLine pattern)).2.1 = .keep := by
    unfold splitMark
    split <;> simp_all
  rw [parse_eq (by simp) (by simp [trimLine_marked]), trimLine_marked] at h
  obtain ⟨glob, -, hr⟩ := exists_of_map_eq_ok h
  rw [← Option.some.inj hr]
  exact hmark

/-- A backslash before a mark is read over: the pattern of a line is the same with it and without. -/
theorem parse_glob_escaped {c : Char} (hc : c = '!' ∨ c = '#') (before : List Char)
    (hbefore : before = [] ∨ before = ['*', '*', '/']) (s : List Char) :
    Glob.parse lenient (before ++ '\\' :: c :: s) = Glob.parse lenient (before ++ c :: s) := by
  have hread (r : Glob.Reading) : r.read lenient ('\\' :: c :: s) = r.read lenient (c :: s) := by
    obtain rfl | rfl := hc <;> simp [Glob.Reading.read]
  have hstars (s : List Char) : Glob.Reading.read lenient {} ('*' :: '*' :: '/' :: s) =
      (Glob.Reading.push {} .leading '/').read lenient s := by
    conv_lhs => unfold Glob.Reading.read
    rfl
  obtain rfl | rfl := hbefore
  · exact hread {}
  · exact (hstars _).trans ((hread _).trans (hstars _).symm)

theorem splitSlash_escaped {c : Char} (hc : c = '!' ∨ c = '#') (s : List Char) :
    ∃ pattern only, splitSlash (c :: s) = (c :: pattern, only) ∧
      splitSlash ('\\' :: c :: s) = ('\\' :: c :: pattern, only) := by
  have hslash : c ≠ '/' ∧ c ≠ '\\' := by obtain rfl | rfl := hc <;> decide
  cases s with
  | nil => exact ⟨[], false, by simp [splitSlash, hslash], by simp [splitSlash, hslash]⟩
  | cons d s =>
    -- the last two characters of the line are the same with the backslash and without
    have hlast : ('\\' :: c :: d :: s).getLast? = (c :: d :: s).getLast? := rfl
    unfold splitSlash
    rw [hlast]
    split
    · cases hbefore : (d :: s).dropLast with
      | nil => exact ⟨[], true, by simp [hbefore, hslash], by simp [hbefore, hslash]⟩
      | cons e before =>
        simp only [List.dropLast_cons_cons, List.getLast?_cons_cons, hbefore]
        split
        · exact ⟨(e :: before).dropLast, true, rfl, rfl⟩
        · exact ⟨e :: before, true, rfl, rfl⟩
    · exact ⟨d :: s, false, rfl, rfl⟩

/-- The end of a text stands behind a character that is not part of it. -/
theorem suffix_append_cons_iff {end_ before s : List Char} {c : Char} (hc : c ∉ end_) :
    end_ <:+ before ++ c :: s ↔ end_ <:+ s := by
  constructor
  · intro h
    obtain hshort | hlong := List.suffix_or_suffix_of_suffix h (List.suffix_append before (c :: s))
    · obtain rfl | hs := List.suffix_cons_iff.mp hshort
      · exact absurd List.mem_cons_self hc
      · exact hs
    · exact absurd (hlong.mem List.mem_cons_self) hc
  · intro h
    exact (h.trans (List.suffix_cons c s)).trans (List.suffix_append before _)

theorem isFloating_cons {c : Char} (hc : '*' ≠ c) (s : List Char) : isFloating (c :: s) = false := by
  simp [isFloating, List.isPrefixOf, hc, hc.symm]

theorem wholePattern_escaped {c : Char} (hc : c = '!' ∨ c = '#') (s : List Char) :
    ∃ before after, (before = [] ∨ before = ['*', '*', '/']) ∧
      wholePattern false (c :: s) = before ++ c :: after ∧
      wholePattern false ('\\' :: c :: s) = before ++ '\\' :: c :: after := by
  have hmark : '*' ≠ c ∧ '/' ≠ c := by obtain rfl | rfl := hc <;> decide
  -- neither what comes before a pattern nor what comes behind it depends on the backslash
  have hends (before : List Char) : ['/', '*', '*'].isSuffixOf (before ++ '\\' :: c :: s) =
      ['/', '*', '*'].isSuffixOf (before ++ c :: s) := by
    have hcends : c ∉ ['/', '*', '*'] := by simp [hmark.1.symm, hmark.2.symm]
    rw [Bool.eq_iff_iff, List.isSuffixOf_iff_suffix, List.isSuffixOf_iff_suffix, suffix_append_cons_iff hcends,
      List.append_cons before '\\', suffix_append_cons_iff hcends]
  have hanywhere : (!('\\' :: c :: s).contains '/' && !isFloating ('\\' :: c :: s)) =
      (!(c :: s).contains '/' && !isFloating (c :: s)) := by
    rw [isFloating_cons (by decide), isFloating_cons hmark.1]
    simp
  simp only [wholePattern, Bool.not_false, Bool.true_and, hanywhere]
  obtain ⟨before, hbefore, hpattern⟩ : ∃ before : List Char, (before = [] ∨ before = ['*', '*', '/']) ∧
      ∀ pattern : List Char, (if (!(c :: s).contains '/' && !isFloating (c :: s)) = true then
        ['*', '*', '/'] ++ pattern else pattern) = before ++ pattern := by
    split
    · exact ⟨_, .inr rfl, fun _ => rfl⟩
    · exact ⟨_, .inl rfl, fun _ => rfl⟩
  simp only [hpattern, hends]
  split
  · exact ⟨before, s ++ ['/', '*'], hbefore, by simp, by simp⟩
  · exact ⟨before, s, hbefore, rfl, rfl⟩

/-- A line without a mark looks for something; the mark turns this round. Only a backslash that takes a mark
literally is read as part of the pattern behind another mark. -/
theorem splitMark_marked (h : line.head? ≠ some '!') :
    (splitMark line).2.1 = .skip ∧
      ((∃ c s, (c = '!' ∨ c = '#') ∧ line = '\\' :: c :: s) ∨
        splitMark ('!' :: line) = ((splitMark line).1, .keep, (splitMark line).2.2)) := by
  conv in splitMark line => unfold splitMark
  split
  · next s => exact ⟨rfl, .inl ⟨'!', s, .inl rfl, rfl⟩⟩
  · next s => exact ⟨rfl, .inl ⟨'#', s, .inr rfl, rfl⟩⟩
  · exact absurd rfl h
  · exact absurd rfl h
  · exact ⟨rfl, .inr rfl⟩
  · next _ _ _ _ hnoSlash =>
    refine ⟨rfl, .inr ?_⟩
    have hline : splitMark line = (line, .skip, false) := by rw [splitMark] <;> assumption
    rw [hline, splitMark]
    · simpa using hnoSlash

/-- **Behind a mark a plain line has the same rule with the opposite verdict.** -/
theorem parse_marked (h : IsPlain pattern) :
    parse lenient ('!' :: pattern) =
      (parse lenient pattern).map (Option.map fun r => { r with verdict := .keep }) := by
  obtain ⟨hblank, hnoMark, hcomment⟩ := h
  obtain ⟨hnonempty, hhead⟩ := head?_trimLine hblank
  rw [parse_eq (by simp) (by simp [trimLine_marked]), parse_eq hcomment hnonempty, globText, globText,
    trimLine_marked]
  rw [← hhead] at hnoMark
  generalize trimLine pattern = line at *
  obtain ⟨-, ⟨c, s, hc, rfl⟩ | hmark⟩ := splitMark_marked hnoMark
  · have hline : splitMark ('\\' :: c :: s) = (c :: s, .skip, false) := by obtain rfl | rfl := hc <;> rfl
    have hmarked : splitMark ('!' :: '\\' :: c :: s) = ('\\' :: c :: s, .keep, false) := rfl
    obtain ⟨text, only, hslash, hslash'⟩ := splitSlash_escaped hc s
    obtain ⟨before, after, hbefore, hwhole, hwhole'⟩ := wholePattern_escaped hc text
    simp only [hline, hmarked, hslash, hslash', hwhole, hwhole', parse_glob_escaped hc before hbefore]
    cases Glob.parse lenient (before ++ c :: after) <;> rfl
  · simp only [hmark]
    cases Glob.parse lenient (wholePattern (splitMark line).2.2 (splitSlash (splitMark line).1).1) <;> rfl

/-- A plain line looks for something. -/
theorem verdict_of_parse_plain {rule? : Option Rule} (hplain : IsPlain line)
    (h : parse lenient line = .ok rule?) : ∃ r, rule? = some r ∧ r.verdict = .skip := by
  obtain ⟨hblank, hnoMark, hcomment⟩ := hplain
  obtain ⟨hnonempty, hhead⟩ := head?_trimLine hblank
  rw [parse_eq hcomment hnonempty] at h
  obtain ⟨glob, -, rfl⟩ := exists_of_map_eq_ok h
  rw [← hhead] at hnoMark
  exact ⟨_, rfl, (splitMark_marked hnoMark).1⟩

end Rule

/-! ## The last line that holds -/

namespace Overrides

variable {o : Overrides} {base path : Path} {lines includes excludes : List (List Char)} {line : List Char}
  {rules : List Rule} {isDirectory : Bool}

/-- The rule of a line, if there is one. -/
def rule? (line : List Char) : Option Rule := (Rule.parse false line).toOption.bind id

/-- Whether a line holds of an entry: its rule does, relative to a directory. -/
def lineHolds (base : Path) (line : List Char) (path : Path) (isDirectory : Bool) : Bool :=
  (rule? line).any fun r => r.holds (RuleSet.relative ⟨base, []⟩ path) isDirectory

theorem lineHolds_marked {pattern : List Char} (h : Rule.IsPlain pattern) :
    lineHolds base ('!' :: pattern) path isDirectory = lineHolds base pattern path isDirectory := by
  rw [lineHolds, lineHolds, rule?, rule?, Rule.parse_marked h]
  cases Rule.parse false pattern with
  | error fault => rfl
  | ok found => cases found <;> rfl

theorem rule?_eq_some_iff {r : Rule} : rule? line = some r ↔ Rule.parse false line = .ok (some r) := by
  rw [rule?]
  cases Rule.parse false line <;> simp [Except.toOption]

/-- A line that holds of something has a rule. -/
theorem exists_rule?_of_lineHolds (h : lineHolds base line path isDirectory = true) :
    ∃ r, rule? line = some r := by
  rw [lineHolds] at h
  cases hrule : rule? line with
  | none =>
    rw [hrule] at h
    cases h
  | some r => exact ⟨r, rfl⟩

theorem ruleOfLine_eq_ok_iff {rule : Option Rule} :
    ruleOfLine line = .ok rule ↔ Rule.parse false line = .ok rule := by
  rw [ruleOfLine]
  cases Rule.parse false line <;> simp [Except.mapError]

theorem rules_eq_of_ok (h : rulesOfLines lines = .ok rules) : rules = lines.filterMap rule? := by
  obtain ⟨found, hfound, rfl⟩ := exists_of_map_eq_ok h
  have hall := mapM_eq_ok_iff.mp hfound
  clear h hfound
  induction hall with
  | nil => rfl
  | @cons line rule lines found hline _ ih =>
    have hrule : rule? line = rule := by
      rw [rule?, ruleOfLine_eq_ok_iff.mp hline]
      rfl
    rw [List.filterMap_cons, List.filterMap_cons, hrule, id, ih]

/-- **The last line that holds decides.** -/
theorem set_verdict?_eq (h : build base includes excludes = .ok o) :
    o.set.verdict? path isDirectory =
      ((overrideLines includes excludes).reverse.find? fun line => lineHolds base line path isDirectory).bind
        fun line => (rule? line).map Rule.verdict := by
  obtain ⟨rules, hrules, rfl⟩ := exists_of_map_eq_ok h
  obtain rfl := rules_eq_of_ok hrules
  rw [RuleSet.verdict?, ← List.filterMap_reverse, List.find?_filterMap, Option.map_bind]
  rfl

/-- **What is left out is left out**, whatever else holds: all patterns to leave out come behind those to look
at. -/
theorem verdict?_of_excluded (h : build base includes excludes = .ok o) {pattern : List Char}
    (hpattern : pattern ∈ excludes) (hholds : lineHolds base ('!' :: pattern) path isDirectory = true) :
    o.verdict? path isDirectory = some .skip := by
  have hsome : ((excludes.map ('!' :: ·)).reverse.find?
      fun line => lineHolds base line path isDirectory).isSome = true :=
    List.find?_isSome.mpr ⟨_, List.mem_reverse.mpr (List.mem_map_of_mem hpattern), hholds⟩
  obtain ⟨line, hlast⟩ := Option.isSome_iff_exists.mp hsome
  obtain ⟨pattern', -, rfl⟩ := List.mem_map.mp (List.mem_reverse.mp (List.mem_of_find?_eq_some hlast))
  have hholds' : lineHolds base ('!' :: pattern') path isDirectory = true := by
    simpa using List.find?_some hlast
  obtain ⟨r, hr⟩ := exists_rule?_of_lineHolds hholds'
  have hkeep : r.verdict = .keep := Rule.verdict_of_parse_marked (rule?_eq_some_iff.mp hr)
  rw [verdict?, set_verdict?_eq h, overrideLines, List.reverse_append, List.find?_append, hlast]
  simp [hr, hkeep, Verdict.inverse]

/-- Plain patterns to look at tell what is looked at. -/
theorem selects_of_plain (h : build base includes excludes = .ok o) (hline : line ∈ includes)
    (hplain : Rule.IsPlain line) : o.selects = true := by
  obtain ⟨rules, hrules, rfl⟩ := exists_of_map_eq_ok h
  obtain ⟨found, hfound, -⟩ := exists_of_map_eq_ok hrules
  obtain ⟨rule, hrule⟩ := ok_of_mapM_eq_ok hfound (List.mem_append_left _ hline)
  have hparse := ruleOfLine_eq_ok_iff.mp hrule
  obtain ⟨r, rfl, hskip⟩ := Rule.verdict_of_parse_plain hplain hparse
  have hr : rule? line = some r := rule?_eq_some_iff.mpr hparse
  obtain rfl := rules_eq_of_ok hrules
  exact List.any_eq_true.mpr
    ⟨r, List.mem_filterMap.mpr ⟨line, List.mem_append_left _ hline, hr⟩, by simp [hskip]⟩

/-- **Of a file that is not left out some pattern to look at holds, and no later one does**, once there are
plain patterns to look at and no others. -/
theorem exists_last_include (h : build base includes excludes = .ok o) (hincludes : includes ≠ [])
    (hplain : ∀ line ∈ includes, Rule.IsPlain line) (hverdict : o.verdict? path false ≠ some .skip) :
    ∃ before line after, includes = before ++ line :: after ∧ lineHolds base line path false = true ∧
      ∀ later ∈ after ++ excludes.map ('!' :: ·), lineHolds base later path false = false := by
  have hselects : o.selects = true := by
    obtain ⟨line, hline⟩ := List.exists_mem_of_ne_nil _ hincludes
    exact selects_of_plain h hline (hplain line hline)
  have hexcludes : ∀ line ∈ excludes.map ('!' :: ·), lineHolds base line path false = false := by
    intro line hline
    obtain ⟨pattern, hpattern, rfl⟩ := List.mem_map.mp hline
    exact Bool.eq_false_iff.mpr fun hholds => hverdict (verdict?_of_excluded h hpattern hholds)
  cases hlast : includes.reverse.find? fun line => lineHolds base line path false with
  | none =>
    -- nothing holds of the file, which is left out then
    refine absurd ?_ hverdict
    have hnone : ((excludes.map ('!' :: ·)).reverse.find? fun line => lineHolds base line path false) = none :=
      List.find?_eq_none.mpr fun line hline => by simp [hexcludes line (List.mem_reverse.mp hline)]
    rw [verdict?, set_verdict?_eq h, overrideLines, List.reverse_append, List.find?_append, hnone, hlast]
    simp [hselects]
  | some line =>
    obtain ⟨hholds, after, before, hsplit, hafter⟩ := List.find?_eq_some_iff_append.mp hlast
    refine ⟨before.reverse, line, after.reverse, ?_, hholds, ?_⟩
    · rw [← List.reverse_reverse includes, hsplit]
      simp
    · intro later hlater
      obtain hlater | hlater := List.mem_append.mp hlater
      · simpa using hafter later (List.mem_reverse.mp hlater)
      · exact hexcludes later hlater

end Overrides

end LineCensus
