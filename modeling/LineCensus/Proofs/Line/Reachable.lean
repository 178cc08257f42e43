import LineCensus.Proofs.Line.Refinement
import LineCensus.Proofs.Text.ByteSearch

/-!
# `Proofs.Line.Reachable` — the states that lines and resets lead to

What holds in every state between two lines, for every language and every sequence of lines and resets:
what is open is a construct of the language (`Reachable.genuine`), and so the next line is read without a
fault, with every cut at the boundary of a character and every loop making progress.

## Contents

* `Reachable` — the states;
* `Reachable.opened_stays` — what can be open, and when it stays open for good;
* `Reachable.reads_without_fault` — no line has a fault.
-/

namespace LineCensus

open Text

variable {cs : List Construct} {opened : Option Opened}

/-- The states that lines and resets lead to, from nothing open. -/
inductive Reachable (cs : List Construct) : Option Opened → Prop where
  | fresh : Reachable cs none
  | step {opened : Option Opened} (s : Step) (h : Reachable cs opened) :
      Reachable cs (s.run cs opened).2

/-- One step keeps the open construct genuine. -/
theorem Step.run_genuine (h : ∀ o ∈ opened, o.Genuine cs) (s : Step) :
    ∀ o ∈ (s.run cs opened).2, o.Genuine cs := by
  cases s with
  | line text =>
    have hline := Lexer.classify_genuine h text
    rwa [← classify_eq_lexer h] at hline
  | reset =>
    intro o ho
    exact absurd ho (by simp [Step.run])

/-- What a scan leaves open is genuine after each of its steps. -/
theorem genuine_of_mem_scan (h : ∀ o ∈ opened, o.Genuine cs) {steps : List Step}
    {result : Option LineKind × Option Opened} (hmem : result ∈ scan cs opened steps) :
    ∀ o ∈ result.2, o.Genuine cs := by
  induction steps generalizing opened with
  | nil => cases hmem
  | cons step steps ih =>
    have hnext : ∀ o ∈ (step.run cs opened).2, o.Genuine cs := Step.run_genuine h step
    rcases List.mem_cons.mp hmem with rfl | hlater
    · exact hnext
    · exact ih hnext hlater

theorem Reachable.genuine (h : Reachable cs opened) : ∀ o ∈ opened, o.Genuine cs := by
  induction h with
  | fresh => simp
  | step s _ ih => exact Step.run_genuine ih s

/-- Lines lead from state to state. -/
theorem Reachable.after_lines (h : Reachable cs opened) (lines : List (List Char)) :
    Reachable cs (stateAfter cs opened lines) := by
  induction lines generalizing opened with
  | nil => exact h
  | cons line lines ih =>
    rw [stateAfter_cons]
    exact ih (Reachable.step (.line line) h)

/-! ## What is open -/

/-- A construct whose closing delimiter is empty is still open after a line. -/
theorem classify_of_closing_nil {o : Opened} {c : Construct} (hgenuine : o.Genuine cs)
    (hc : cs[o.index]? = some c) (hclosing : c.closing? = some []) (line : List Char) :
    (classify cs (some o) line).2 = some o := by
  have hall : ∀ o' ∈ some o, o'.Genuine cs := by
    intro o' ho'
    obtain rfl := Option.some.inj ho'
    exact hgenuine
  obtain ⟨c', hc', hkind, hline, -⟩ := hgenuine
  obtain rfl : c' = c := Option.some.inj (hc'.symm.trans hc)
  rw [classify_eq_lexer hall, Lexer.classify]
  split
  · rfl
  · -- the lexer reads to the end of the line without a close
    have hnone : c'.afterClose? none line = none := by
      apply Construct.afterClose?_eq_none
      intro closing hmem
      exact (Option.some.inj (hclosing.symm.trans hmem)).symm
    simp only [Lexer.Mode.ofOpened, hc]
    rw [Lexer.read_inside, hnone]
    simp only [Lexer.Mode.carried]
    rw [if_neg hline, hkind]

theorem stateAfter_of_closing_nil {o : Opened} {c : Construct} (hgenuine : o.Genuine cs)
    (hc : cs[o.index]? = some c) (hclosing : c.closing? = some []) (lines : List (List Char)) :
    stateAfter cs (some o) lines = some o := by
  induction lines with
  | nil => rfl
  | cons line lines ih =>
    rw [stateAfter_cons, classify_of_closing_nil hgenuine hc hclosing]
    exact ih

/-- **What is open between lines** is a string or a block comment: the construct of the language with its
index is of its kind and can open; and if its closing delimiter is empty, it stays open for all lines up
to a reset. -/
theorem Reachable.opened_stays (h : Reachable cs opened) :
    ∀ o ∈ opened, o.kind ≠ .lineComment ∧ ∃ hindex : o.index < cs.length,
      cs[o.index].kind = o.kind ∧ cs[o.index].opening ≠ [] ∧
        (cs[o.index].closing? = some [] → ∀ lines, stateAfter cs opened lines = opened) := by
  intro o ho
  obtain ⟨c, hc, hkind, hline, hne⟩ := h.genuine o ho
  obtain ⟨hindex, hget⟩ := List.getElem?_eq_some_iff.mp hc
  refine ⟨hkind ▸ hline, hindex, by rw [hget, hkind], by rw [hget]; exact hne, ?_⟩
  intro hclosing lines
  rw [hget] at hclosing
  have hopened : opened = some o := ho
  rw [hopened]
  exact stateAfter_of_closing_nil (h.genuine o ho) hc hclosing lines

/-- A string without a closing delimiter that can be found is open, and a further line leaves it so. -/
theorem opened_stays_in_endless_string :
    Reachable [.string ['"'] [] none] (some ⟨.string, 0⟩) ∧
      stateAfter [.string ['"'] [] none] (some ⟨.string, 0⟩) [['"'], []] = some ⟨.string, 0⟩ := by
  have hrun : (Step.run [.string ['"'] [] none] none (.line ['"'])).2 = some ⟨.string, 0⟩ := by
    show (classify [.string ['"'] [] none] none ['"']).2 = some ⟨.string, 0⟩
    rw [classify_eq_lexer (by simp)]
    decide
  have hreach : Reachable [.string ['"'] [] none] (some ⟨.string, 0⟩) :=
    hrun ▸ Reachable.step (.line ['"']) Reachable.fresh
  refine ⟨hreach, ?_⟩
  obtain ⟨-, _, -, -, hstays⟩ := hreach.opened_stays ⟨.string, 0⟩ rfl
  exact hstays rfl [['"'], []]

/-! ## No fault -/

/-- A turn has no fault, and one that goes on leaves less of the line. -/
theorem round?_shrinks (hwithin : Opened.Within cs opened) (seen : Seen) (text : List Char) :
    ∃ r, round? Construct.closer cs opened seen text = .ok r ∧
      ∀ seen' rest, r = .again seen' rest → rest.length < text.length := by
  obtain ⟨r, hr, hsound⟩ := round?_spec Construct.closer hwithin seen text
  refine ⟨r, hr, ?_⟩
  rintro seen' rest rfl
  exact hsound

/-- A round of the search in a string that starts at the boundary of a character has no fault, and one
that goes on does so at a later boundary. -/
theorem closeRound?_grows {closing text : List Char} (hne : closing ≠ []) (escape : Option Char)
    {offset : Nat} (hcut : (cut? offset text).isSome = true) :
    ∃ r, closeRound? closing escape text offset = .ok r ∧
      ∀ next, r = .again next → offset < next ∧ (cut? next text).isSome = true := by
  -- an offset at a boundary is the length of the text before it
  obtain ⟨⟨before, rest⟩, hsplit⟩ := Option.isSome_iff_exists.mp hcut
  obtain ⟨rfl, rfl⟩ := cut?_eq_some_iff.mp hsplit
  obtain ⟨-, hround⟩ | ⟨skipped, after, hrest, -, hcases⟩ := closeRound?_cases hne escape before rest
  · exact ⟨_, hround, by simp⟩
  obtain ⟨-, -, hround⟩ | ⟨-, hround⟩ | ⟨c, tail, rfl, -, -, hround⟩ := hcases
  · exact ⟨_, hround, by simp⟩
  · exact ⟨_, hround, by simp⟩
  · refine ⟨_, hround, ?_⟩
    intro next hnext
    obtain rfl := CloseRound.again.inj hnext
    have htext : before ++ rest = before ++ skipped ++ [c] ++ (tail ++ after) := by simp [hrest]
    refine ⟨?_, by rw [htext, cut?_append]; rfl⟩
    have hpos := c.utf8Size_pos
    simp only [byteLength_append, byteLength_cons, byteLength_nil]
    omega

/-- **Lines are read without a fault.** In every reachable state a line is read to its end. No turn of it
cuts outside the text or inside a character, asks for a construct that is not there, or subtracts a
delimiter from less than its length, and one that goes on leaves less text; no round of a search in a
string cuts wrongly, and one that goes on does so further on; and delimiters are found by comparing bytes
where they are found by comparing characters. -/
theorem Reachable.reads_without_fault (h : Reachable cs opened) :
    (∀ line, classify? Construct.closer cs opened line = .ok (classify cs opened line)) ∧
      (∀ start, start = opened ∨ start = none → ∀ seen text,
        ∃ r, round? Construct.closer cs start seen text = .ok r ∧
          ∀ seen' rest, r = .again seen' rest → rest.length < text.length) ∧
      (∀ closing escape text offset, closing ≠ [] → (cut? offset text).isSome = true →
        ∃ r, closeRound? closing escape text offset = .ok r ∧
          ∀ next, r = .again next → offset < next ∧ (cut? next text).isSome = true) ∧
      ∀ d text, find? d text = findBytes? (encode d) (encode text) := by
  have hwithin := Opened.Genuine.within h.genuine
  refine ⟨fun line => classify?_eq Construct.closer hwithin line, ?_, ?_, find?_eq_findBytes?⟩
  · rintro start (rfl | rfl) seen text
    · exact round?_shrinks hwithin seen text
    · exact round?_shrinks Opened.within_none seen text
  · intro closing escape text offset hne hcut
    exact closeRound?_grows hne escape hcut

/-- A line is read that begins inside a string and closes it after an escaped delimiter. -/
theorem reads_without_fault_in_string :
    Reachable [.doubleQuoted] (some ⟨.string, 0⟩) ∧
      classify? Construct.closer [.doubleQuoted] (some ⟨.string, 0⟩) ['é', '\\', '"', '"'] =
        .ok (.code, none) := by
  have hrun : (Step.run [.doubleQuoted] none (.line ['"'])).2 = some ⟨.string, 0⟩ := by
    show (classify [.doubleQuoted] none ['"']).2 = some ⟨.string, 0⟩
    rw [classify_eq_lexer (by simp)]
    decide
  have hreach : Reachable [.doubleQuoted] (some ⟨.string, 0⟩) :=
    hrun ▸ Reachable.step (.line ['"']) Reachable.fresh
  refine ⟨hreach, ?_⟩
  rw [hreach.reads_without_fault.1, classify_eq_lexer hreach.genuine]
  decide

end LineCensus
