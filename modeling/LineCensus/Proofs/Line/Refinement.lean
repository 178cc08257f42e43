import LineCensus.Line.Scan
import LineCensus.Proofs.Line.Opening
import LineCensus.Proofs.Line.Close

/-!
# `Proofs.Line.Refinement` — searching a line gives what reading it gives

`classify` searches a line for the next delimiter and cuts the line there, turn after turn. The lexer of
`Proofs.Line.Lexer` reads one character at a time. Shape of the proof: one turn of the search covers a
stretch of the line (`Round.Agrees`), first inside a construct, then outside all; the turns of a line
follow by induction on the text that is left; and the lines of a file by induction on the lines, with
`Opened.Genuine` carried from line to line.

## Contents

* `insideRound?_agrees`, `round?_agrees`, `rounds?_agrees` — a turn, and all turns;
* `Opened.Genuine`, `Lexer.classify_genuine` — what is open between lines;
* `classifyWith_eq_lexer`, `classify_eq_lexer` — a line, for any search that agrees and for the one in use;
* `scan_lines_eq_lexer` — the lines of a file.
-/

namespace LineCensus

open Text

variable {cs : List Construct} {closer : Closer}

/-! ## One turn -/

/-- A turn agrees with what the lexer makes of the same text: it is done with the same result, or the
lexer reads on where the turn stops. -/
def Round.Agrees (cs : List Construct) (result : Lexer.Mode × Seen) : Round → Prop
  | .done opened seen => Opened.carried opened = result.1.carried ∧ seen = result.2
  | .again seen rest => Lexer.read cs .outside 0 seen rest = result

theorem carried_some (c : Construct) (index : Nat) (last : Option Char) :
    Opened.carried (some ⟨c.kind, index⟩) = (Lexer.Mode.inside c index last).carried := by
  by_cases hline : c.kind = .lineComment
  · simp [Opened.carried, Lexer.Mode.carried, hline]
  · simp [Opened.carried, Lexer.Mode.carried, hline]

/-- **A turn inside a construct** covers its text up to the close, or the rest of the line. -/
theorem insideRound?_agrees (hcloser : closer.Agrees) {c : Construct} {index : Nat}
    (hc : cs[index]? = some c) (seen : Seen) (text : List Char) :
    ∃ r, insideRound? closer cs ⟨c.kind, index⟩ seen text = .ok r ∧
      r.Agrees cs (Lexer.read cs (.inside c index none) 0 (seen.mark c.kind) text) := by
  obtain ⟨p, hp, hcloses⟩ := hcloser c text
  unfold insideRound?
  simp only [hc, hp]
  rw [Lexer.read_inside]
  cases hcloses with
  | notFound h =>
    rw [h]
    exact ⟨_, rfl, carried_some c index _, rfl⟩
  | lineComment hkind =>
    -- a line comment is done at the end of the line; the lexer stays in it, and drops it there
    have hnone : c.afterClose? none text = none := by
      apply Construct.afterClose?_eq_none
      cases c <;> simp_all [Construct.kind, Construct.closing?]
    rw [hnone]
    exact ⟨_, rfl, by simp [Lexer.Mode.carried, hkind, Opened.carried], rfl⟩
  | atLineEnd h =>
    rw [h]
    simp only [Lexer.read_nil]
    exact ⟨_, rfl, rfl, rfl⟩
  | @resume before after hline h =>
    rw [h, hline]
    simp only [cut?_append]
    exact ⟨_, rfl, rfl⟩

/-- Up to the opening that is chosen nothing opens, and there the lexer opens the same construct. -/
theorem opensHere?_of_earliest? {o : Opening} {c : Construct} {before after : List Char}
    (h : earliest? cs (before ++ (c.opening ++ after)) = .ok (some o)) (hc : cs[o.index]? = some c)
    (hne : c.opening ≠ []) (hstart : o.start = byteLength before)
    (hstop : o.stop = byteLength (before ++ c.opening)) :
    opensHere? cs (c.opening ++ after) = some (c, o.index) ∧
      ∀ t, t <:+ before → t ≠ [] → opensHere? cs (t ++ (c.opening ++ after)) = none := by
  constructor
  · cases hhere : opensHere? cs (c.opening ++ after) with
    | none =>
      exact absurd (List.prefix_append _ _)
        (opensHere?_eq_none_iff.mp hhere c (List.mem_of_getElem? hc) hne)
    | some found =>
      obtain ⟨d, j⟩ := found
      obtain ⟨hd, hopens, hbest⟩ := opensHere?_spec hhere
      obtain ⟨hdne, rest, hrest⟩ := Construct.opensHere_iff.mp hopens
      have hprefix : c.opening <+: c.opening ++ after := List.prefix_append _ _
      have hdprefix : d.opening <+: c.opening ++ after := ⟨rest, hrest⟩
      -- each of the two goes no later than the other
      have hsplit : before ++ (c.opening ++ after) = before ++ (d.opening ++ rest) := by rw [hrest]
      obtain ⟨o', ho', hle⟩ := earliest?_noLater h hd hdne hsplit
      obtain rfl := Option.some.inj ho'
      have hge := hbest c o.index hc (Construct.opensHere_iff.mpr ⟨hne, hprefix⟩)
      have hshorter := length_le_iff_of_prefix hdprefix hprefix
      have hlonger := length_le_iff_of_prefix hprefix hdprefix
      unfold Opening.NoLater at hle
      simp only [byteLength_append] at hle hstop
      have hj : j = o.index := by omega
      subst hj
      rw [hc] at hd
      rw [Option.some.inj hd]
  · intro t ht htne
    rw [opensHere?_eq_none_iff]
    rintro d hmem hdne ⟨rest, hrest⟩
    obtain ⟨front, rfl⟩ := ht
    have hsplit : front ++ t ++ (c.opening ++ after) = front ++ (d.opening ++ rest) := by
      rw [hrest, List.append_assoc]
    obtain ⟨o', ho', hle⟩ := earliest?_start_le h hmem hdne hsplit
    obtain rfl := Option.some.inj ho'
    have hpos := byteLength_pos htne
    rw [hstart, byteLength_append] at hle
    omega

/-- Where no opening is found nothing opens. -/
theorem opensHere?_of_earliest?_none {text t : List Char} (h : earliest? cs text = .ok none)
    (ht : t <:+ text) : opensHere? cs t = none := by
  rw [opensHere?_eq_none_iff]
  rintro d hmem hdne ⟨rest, rfl⟩
  obtain ⟨front, rfl⟩ := ht
  obtain ⟨o, ho, -⟩ := earliest?_start_le h hmem hdne rfl
  exact absurd ho (by simp)

/-- **A turn with nothing open** covers the text up to the first opening, and from there the text of the
construct that opens. -/
theorem round?_agrees (hcloser : closer.Agrees) (seen : Seen) (text : List Char) :
    ∃ r, round? closer cs none seen text = .ok r ∧
      r.Agrees cs (Lexer.read cs .outside 0 seen text) := by
  obtain ⟨found, hfound, hstands⟩ := earliest?_spec cs text
  simp only [round?, hfound]
  cases found with
  | none =>
    have hread : Lexer.read cs .outside 0 seen (text ++ []) =
        Lexer.read cs .outside 0 (seen.text text) [] := by
      apply Lexer.read_outside_append
      intro t ht _
      rw [List.append_nil]
      exact opensHere?_of_earliest?_none hfound ht
    rw [List.append_nil, Lexer.read_nil] at hread
    rw [hread]
    exact ⟨_, rfl, rfl, rfl⟩
  | some o =>
    obtain ⟨c, before, after, hc, hne, rfl, hstart, hstop⟩ := hstands o rfl
    rw [List.append_assoc] at hfound
    obtain ⟨hopens, hbefore⟩ := opensHere?_of_earliest? hfound hc hne hstart hstop
    have hcut : cut? o.start (before ++ c.opening ++ after) = some (before, c.opening ++ after) := by
      rw [hstart, List.append_assoc, cut?_append]
    have hread : Lexer.read cs .outside 0 seen (before ++ c.opening ++ after) =
        Lexer.read cs (.inside c o.index none) 0 ((seen.text before).mark c.kind) after := by
      rw [List.append_assoc, Lexer.read_outside_append hbefore, Lexer.read_outside_opens hopens]
    simp only [hcut, hc]
    rw [hread]
    split
    · next hend =>
      -- the opening delimiter ends the line
      have hafter : after = [] := by
        simp only [hstop, byteLength_append] at hend
        exact byteLength_eq_zero.mp (by omega)
      rw [hafter, Lexer.read_nil]
      exact ⟨_, rfl, carried_some c o.index none, rfl⟩
    · rw [hstop, cut?_append]
      exact insideRound?_agrees hcloser hc (seen.text before) after

/-! ## All turns of a line -/

/-- If the first turn agrees, so do all turns: those after it start with nothing open. -/
theorem rounds?_agrees (hcloser : closer.Agrees) {opened : Option Opened} {seen : Seen}
    {text : List Char} {result : Lexer.Mode × Seen} (hwithin : Opened.Within cs opened)
    (hround : ∃ r, round? closer cs opened seen text = .ok r ∧ r.Agrees cs result) :
    ∃ opened', rounds? closer cs opened seen text = .ok (opened', result.2) ∧
      Opened.carried opened' = result.1.carried := by
  -- on the text left: the first turn is given, and those after it start with nothing open
  induction hn : text.length using Nat.strongRecOn generalizing opened seen text with
  | ind n ih =>
    obtain ⟨r, hr, hagrees⟩ := hround
    obtain ⟨r', hr', hsound⟩ := round?_spec closer hwithin seen text
    obtain rfl : r' = r := Except.ok.inj (hr'.symm.trans hr)
    rw [rounds?, hr]
    cases r' with
    | done opened' seen' =>
      obtain ⟨hcarried, rfl⟩ := hagrees
      exact ⟨opened', rfl, hcarried⟩
    | again seen' rest =>
      have hlt : rest.length < text.length := hsound
      obtain rfl : Lexer.read cs .outside 0 seen' rest = result := hagrees
      simp only [hlt, if_true]
      exact ih rest.length (hn ▸ hlt) Opened.within_none (round?_agrees hcloser seen' rest) rfl

/-! ## What is open between lines -/

/-- The open construct is the one of its index, of its kind, and one that can be open between lines. -/
def Opened.Genuine (cs : List Construct) (o : Opened) : Prop :=
  ∃ c, cs[o.index]? = some c ∧ c.kind = o.kind ∧ c.kind ≠ .lineComment ∧ c.opening ≠ []

theorem Opened.Genuine.within {opened : Option Opened} (h : ∀ o ∈ opened, o.Genuine cs) :
    Opened.Within cs opened := by
  intro o ho
  obtain ⟨c, hc, -⟩ := h o ho
  exact (List.getElem?_eq_some_iff.mp hc).1

namespace Lexer

/-- The lexer stands in a construct of the list that can open. -/
def Mode.Proper (cs : List Construct) : Mode → Prop
  | .outside => True
  | .inside c index _ => cs[index]? = some c ∧ c.opening ≠ []

/-- One character does not lead out of the constructs of the list. -/
theorem step_proper {mode : Mode} (h : mode.Proper cs) (seen : Seen) (ch : Char) (text : List Char) :
    (step cs mode seen ch text).1.Proper cs := by
  cases mode with
  | outside =>
    cases hopens : opensHere? cs (ch :: text) with
    | none =>
      rw [step_outside hopens]
      exact h
    | some found =>
      obtain ⟨hc, hhere, -⟩ := opensHere?_spec hopens
      rw [step_opens hopens]
      exact ⟨hc, (Construct.opensHere_iff.mp hhere).1⟩
  | inside c index last =>
    cases hcloses : c.closesHere? last (ch :: text) with
    | none =>
      rw [step_inside hcloses]
      exact h
    | some closing =>
      rw [step_closes hcloses]
      trivial

theorem read_proper {mode : Mode} (h : mode.Proper cs) (jump : Nat) (seen : Seen) (text : List Char) :
    (read cs mode jump seen text).1.Proper cs := by
  induction text generalizing mode jump seen with
  | nil => rwa [read_nil]
  | cons ch text ih =>
    cases jump with
    | succ jump => exact ih h jump seen
    | zero => exact ih (step_proper h seen ch text) _ _

theorem Mode.Proper.genuine {mode : Mode} (h : mode.Proper cs) : ∀ o ∈ mode.carried, o.Genuine cs := by
  intro o ho
  cases mode with
  | outside => exact absurd ho (by simp [Mode.carried])
  | inside c index last =>
    by_cases hline : c.kind = .lineComment
    · exact absurd ho (by simp [Mode.carried, hline])
    · obtain rfl : (⟨c.kind, index⟩ : Opened) = o := by simpa [Mode.carried, hline] using ho
      exact ⟨c, h.1, rfl, hline, h.2⟩

theorem Mode.ofOpened_proper {opened : Option Opened} (h : ∀ o ∈ opened, o.Genuine cs) :
    (Mode.ofOpened cs opened).Proper cs := by
  cases opened with
  | none => trivial
  | some o =>
    obtain ⟨c, hc, -, -, hne⟩ := h o rfl
    simp only [Mode.ofOpened, hc]
    exact ⟨hc, hne⟩

/-- A line leaves open what the list has, or nothing. -/
theorem classify_genuine {opened : Option Opened} (h : ∀ o ∈ opened, o.Genuine cs)
    (line : List Char) : ∀ o ∈ (classify cs opened line).2, o.Genuine cs := by
  unfold classify
  split
  · exact h
  · exact (read_proper (Mode.ofOpened_proper h) 0 _ line).genuine

end Lexer

/-! ## Lines -/

/-- **A line, by any search that agrees.** -/
theorem classifyWith_eq_lexer (hcloser : closer.Agrees) {opened : Option Opened}
    (h : ∀ o ∈ opened, o.Genuine cs) (line : List Char) :
    classifyWith closer cs opened line = Lexer.classify cs opened line := by
  have hwithin := Opened.Genuine.within h
  -- both sides as answers of the search with faults
  apply Except.ok.inj (ε := Fault)
  rw [← classify?_eq closer hwithin line, classify?, Lexer.classify]
  split
  · rfl
  · have hstart : ∃ r, round? closer cs opened {} line = .ok r ∧ r.Agrees cs
        (Lexer.read cs (Lexer.Mode.ofOpened cs opened) 0 (Lexer.Mode.ofOpened cs opened).seen line) := by
      cases opened with
      | none => exact round?_agrees hcloser {} line
      | some o =>
        obtain ⟨c, hc, hkind, -⟩ := h o rfl
        have hturn := insideRound?_agrees hcloser hc {} line
        rw [hkind] at hturn
        simpa [round?, Lexer.Mode.ofOpened, hc, Lexer.Mode.seen, hkind] using hturn
    obtain ⟨opened', hrounds, hcarried⟩ := rounds?_agrees hcloser hwithin hstart
    rw [hrounds]
    simp only [hcarried]

theorem classify_eq_lexer {opened : Option Opened} (h : ∀ o ∈ opened, o.Genuine cs)
    (line : List Char) : classify cs opened line = Lexer.classify cs opened line :=
  classifyWith_eq_lexer Construct.closer_agrees h line

/-- The lines of a file, from any state that a scan can be in. -/
theorem scan_eq_lexer {opened : Option Opened} (h : ∀ o ∈ opened, o.Genuine cs)
    (lines : List (List Char)) :
    scan cs opened (lines.map .line) =
      (Lexer.scan cs opened lines).map fun r => (some r.1, r.2) := by
  induction lines generalizing opened with
  | nil => rfl
  | cons line lines ih =>
    rw [List.map_cons, scan, Lexer.scan, List.map_cons]
    simp only [Step.run]
    rw [classify_eq_lexer h, ih (Lexer.classify_genuine h line)]

end LineCensus
