import LineCensus.Proofs.Line.Reachable

/-!
# `Proofs.Line.Renumbering` — scans of two languages side by side

A scan refers to constructs by their index alone. So two languages whose constructs have different indices
can be scanned side by side: if at every place of every line the same construct opens in both, under its
own index in each, then all lines are of the same kinds and what is open differs by the index only.

What it takes for the same construct to open is left to the languages that are compared.
`opensHere?_eq_some_iff` is the means to show it: the construct that opens is the only one that goes
before all others.

## Contents

* `Opened.renumber`, `Lexer.Mode.renumber` — a state as the other language has it;
* `OpensAlike` — the same construct opens at the start of a text;
* `Lexer.step_renumber`, `Lexer.read_renumber` — a character and a text;
* `classify_renumber`, `scan_renumber` — a line and the steps of a scan.
-/

namespace LineCensus

open Text

variable {cs ds : List Construct} {number : Nat → Nat} {opened : Option Opened}

/-! ## What opens is determined by its rank -/

/-- A construct opens exactly if it can and none that can goes before it. -/
theorem opensHere?_eq_some_iff {text : List Char} {c : Construct} {i : Nat} :
    opensHere? cs text = some (c, i) ↔
      cs[i]? = some c ∧ c.opensHere text = true ∧
        ∀ d j, cs[j]? = some d → d.opensHere text = true →
          d.opening.length < c.opening.length ∨ d.opening.length = c.opening.length ∧ i ≤ j := by
  constructor
  · exact opensHere?_spec
  · rintro ⟨hc, hopens, hbest⟩
    cases hhere : opensHere? cs text with
    | none =>
      obtain ⟨hne, hprefix⟩ := Construct.opensHere_iff.mp hopens
      exact absurd hprefix (opensHere?_eq_none_iff.mp hhere c (List.mem_of_getElem? hc) hne)
    | some found =>
      obtain ⟨d, j⟩ := found
      obtain ⟨hd, hdopens, hdbest⟩ := opensHere?_spec hhere
      -- each of the two goes no later than the other
      have hle := hbest d j hd hdopens
      have hge := hdbest c i hc hopens
      obtain rfl : i = j := by omega
      rw [hc] at hd
      rw [Option.some.inj hd]

/-! ## States under other numbers -/

/-- The open construct under its number in the other language. -/
def Opened.renumber (number : Nat → Nat) (o : Opened) : Opened := { o with index := number o.index }

/-- Where the lexer stands, as the other language has it. -/
def Lexer.Mode.renumber (number : Nat → Nat) : Lexer.Mode → Lexer.Mode
  | .outside => .outside
  | .inside c index last => .inside c (number index) last

/-- Each construct of the first language stands under its number in the second one. -/
def Renumbers (number : Nat → Nat) (cs ds : List Construct) : Prop :=
  ∀ i c, cs[i]? = some c → ds[number i]? = some c

/-- At the start of the text the same construct opens in both languages, or none does. -/
def OpensAlike (number : Nat → Nat) (cs ds : List Construct) (text : List Char) : Prop :=
  opensHere? ds text = (opensHere? cs text).map fun found => (found.1, number found.2)

/-- What is open in one language is open, under its number, in the other. -/
theorem Renumbers.genuine (h : Renumbers number cs ds) (hopened : ∀ o ∈ opened, o.Genuine cs) :
    ∀ o ∈ opened.map (Opened.renumber number), o.Genuine ds := by
  intro o ho
  obtain ⟨o, hmem, rfl⟩ := Option.mem_map.mp ho
  obtain ⟨c, hc, hkind⟩ := hopened o hmem
  exact ⟨c, h o.index c hc, hkind⟩

namespace Lexer

variable {seen : Seen}

theorem Mode.carried_renumber (mode : Mode) :
    (mode.renumber number).carried = mode.carried.map (Opened.renumber number) := by
  cases mode with
  | outside => rfl
  | inside c index last =>
    by_cases hline : c.kind = .lineComment
    · simp [Mode.renumber, Mode.carried, hline]
    · simp [Mode.renumber, Mode.carried, hline, Opened.renumber]

theorem Mode.seen_renumber (mode : Mode) : (mode.renumber number).seen = mode.seen := by
  cases mode <;> rfl

theorem Mode.ofOpened_renumber (h : Renumbers number cs ds) (hopened : ∀ o ∈ opened, o.Genuine cs) :
    Mode.ofOpened ds (opened.map (Opened.renumber number)) = (Mode.ofOpened cs opened).renumber number := by
  cases opened with
  | none => rfl
  | some o =>
    obtain ⟨c, hc, -⟩ := hopened o rfl
    have hd : ds[(o.renumber number).index]? = some c := h o.index c hc
    simp only [Option.map_some, Mode.ofOpened, hc, hd]
    rfl

/-- One character leads to the same place and sees the same. -/
theorem step_renumber {ch : Char} {text : List Char} (h : OpensAlike number cs ds (ch :: text))
    (mode : Mode) :
    step ds (mode.renumber number) seen ch text =
      ((step cs mode seen ch text).1.renumber number, (step cs mode seen ch text).2) := by
  unfold OpensAlike at h
  cases mode with
  | outside =>
    cases hopens : opensHere? cs (ch :: text) with
    | none =>
      rw [hopens, Option.map_none] at h
      rw [step_outside hopens]
      exact step_outside h
    | some found =>
      rw [hopens, Option.map_some] at h
      rw [step_opens hopens]
      exact step_opens h
  | inside c index last =>
    -- what closes depends on the construct only
    cases hcloses : c.closesHere? last (ch :: text) with
    | none =>
      rw [step_inside hcloses]
      exact step_inside hcloses
    | some closing =>
      rw [step_closes hcloses]
      exact step_closes hcloses

/-- **A text** in which the same constructs open everywhere leads to the same place and shows the same. -/
theorem read_renumber {text : List Char} (h : ∀ t, t <:+ text → OpensAlike number cs ds t) (mode : Mode)
    (jump : Nat) :
    read ds (mode.renumber number) jump seen text =
      ((read cs mode jump seen text).1.renumber number, (read cs mode jump seen text).2) := by
  induction text generalizing mode jump seen with
  | nil => rw [read_nil, read_nil]
  | cons ch text ih =>
    have hlater : ∀ t, t <:+ text → OpensAlike number cs ds t := by
      intro t ht
      exact h t (ht.trans (List.suffix_cons ch text))
    cases jump with
    | succ jump => exact ih hlater mode jump
    | zero =>
      rw [read, read, step_renumber (h _ List.suffix_rfl)]
      exact ih hlater _ _

end Lexer

/-! ## Lines and scans -/

/-- **A line** in which the same constructs open everywhere is of the same kind, and leaves the same
construct open. -/
theorem classify_renumber (hnumber : Renumbers number cs ds) (hopened : ∀ o ∈ opened, o.Genuine cs)
    {line : List Char} (h : ∀ t, t <:+ line → OpensAlike number cs ds t) :
    classify ds (opened.map (Opened.renumber number)) line =
      ((classify cs opened line).1, (classify cs opened line).2.map (Opened.renumber number)) := by
  have hkind : (opened.map (Opened.renumber number)).map Opened.kind = opened.map Opened.kind := by
    cases opened <;> rfl
  rw [classify_eq_lexer hopened, classify_eq_lexer (hnumber.genuine hopened), Lexer.classify,
    Lexer.classify, hkind, Lexer.Mode.ofOpened_renumber hnumber hopened]
  split
  · rfl
  · simp only [Lexer.Mode.seen_renumber, Lexer.read_renumber h, Lexer.Mode.carried_renumber]

/-- **A scan** over lines in which the same constructs open everywhere, from any state that a scan can be
in: the same kinds, and the same constructs open. -/
theorem scan_renumber (hnumber : Renumbers number cs ds) (hopened : ∀ o ∈ opened, o.Genuine cs)
    {steps : List Step}
    (h : ∀ line, Step.line line ∈ steps → ∀ t, t <:+ line → OpensAlike number cs ds t) :
    scan ds (opened.map (Opened.renumber number)) steps =
      (scan cs opened steps).map fun result => (result.1, result.2.map (Opened.renumber number)) := by
  induction steps generalizing opened with
  | nil => rfl
  | cons step steps ih =>
    have hstep : step.run ds (opened.map (Opened.renumber number)) =
        ((step.run cs opened).1, (step.run cs opened).2.map (Opened.renumber number)) := by
      cases step with
      | reset => rfl
      | line line =>
        have hline := classify_renumber hnumber hopened (h line List.mem_cons_self)
        simp only [Step.run, hline]
    have hnext : ∀ o ∈ (step.run cs opened).2, o.Genuine cs := Step.run_genuine hopened step
    rw [scan, scan, List.map_cons, hstep]
    simp only
    rw [ih hnext fun line hmem => h line (List.mem_cons_of_mem step hmem)]

end LineCensus
