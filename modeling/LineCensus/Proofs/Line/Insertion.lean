import LineCensus.Proofs.Line.Renumbering

/-!
# `Proofs.Line.Insertion` — a construct that cannot open

A construct whose opening delimiter stands nowhere in the lines takes no part in a scan. It may be put in
among the constructs of a language at any place: the lines keep their kinds, and what is open after each of
them stays open, under an index that counts the construct put in. The delimiter may begin like others, or
contain them; all that matters is that it is no initial part of what is left of a line, at any place of it.
An empty delimiter is one such, whatever the lines.

## Contents

* `Construct.Idle` — the construct opens nowhere in a text;
* `indexPast` — the index of a construct once another one is put in;
* `opensAlike_inserted` — the same construct opens, at every place;
* `scan_inserted` — the scan with one construct more.
-/

namespace LineCensus

variable {before after : List Construct} {c : Construct} {text : List Char}

/-! ## Where the construct cannot open -/

/-- The delimiter that opens the construct is empty or stands nowhere in the text. -/
def Construct.Idle (c : Construct) (text : List Char) : Prop :=
  c.opening = [] ∨ ¬ c.opening <:+: text

instance : Decidable (c.Idle text) := inferInstanceAs (Decidable (_ ∨ _))

/-- Then it opens at no place of the text. -/
theorem Construct.Idle.not_opensHere {line : List Char} (h : c.Idle line) (ht : text <:+ line) :
    c.opensHere text ≠ true := by
  intro hopens
  obtain ⟨hne, hstarts⟩ := Construct.opensHere_iff.mp hopens
  rcases h with hempty | habsent
  · exact hne hempty
  · exact habsent (hstarts.isInfix.trans ht.isInfix)

/-! ## The constructs and their indices -/

/-- The index of a construct once another one is put in at position `k`. -/
def indexPast (k i : Nat) : Nat := if i < k then i else i + 1

theorem indexPast_le_indexPast {k i j : Nat} (h : i ≤ j) : indexPast k i ≤ indexPast k j := by
  unfold indexPast
  split <;> split <;> omega

/-- Every construct is still there, under its new index. -/
theorem renumbers_inserted :
    Renumbers (indexPast before.length) (before ++ after) (before ++ c :: after) := by
  intro i d hd
  unfold indexPast
  split
  · next hlt => rwa [List.getElem?_append_left hlt] at hd ⊢
  · next hge =>
    have hle : before.length ≤ i := Nat.le_of_not_lt hge
    rw [List.getElem?_append_right hle] at hd
    rw [List.getElem?_append_right (Nat.le_succ_of_le hle), Nat.succ_sub hle, List.getElem?_cons_succ]
    exact hd

/-- Every construct was there before, but for the one put in. -/
theorem eq_or_exists_of_inserted {d : Construct} {j : Nat} (h : (before ++ c :: after)[j]? = some d) :
    d = c ∨ ∃ i, (before ++ after)[i]? = some d ∧ indexPast before.length i = j := by
  rcases Nat.lt_trichotomy j before.length with hlt | rfl | hgt
  · refine .inr ⟨j, ?_, if_pos hlt⟩
    rwa [List.getElem?_append_left hlt] at h ⊢
  · rw [List.getElem?_append_right (Nat.le_refl _), Nat.sub_self, List.getElem?_cons_zero] at h
    exact .inl (Option.some.inj h).symm
  · obtain ⟨i, rfl⟩ : ∃ i, j = i + 1 := Nat.exists_eq_succ_of_ne_zero (by omega)
    have hle : before.length ≤ i := Nat.le_of_lt_succ hgt
    refine .inr ⟨i, ?_, if_neg (Nat.not_lt.mpr hle)⟩
    rw [List.getElem?_append_right (Nat.le_succ_of_le hle), Nat.succ_sub hle,
      List.getElem?_cons_succ] at h
    rwa [List.getElem?_append_right hle]

/-! ## What opens -/

/-- **The same construct opens** with the construct that cannot open and without it. -/
theorem opensAlike_inserted (h : c.opensHere text ≠ true) :
    OpensAlike (indexPast before.length) (before ++ after) (before ++ c :: after) text := by
  unfold OpensAlike
  cases hopens : opensHere? (before ++ after) text with
  | none =>
    rw [opensHere?_eq_none_iff] at hopens
    refine opensHere?_eq_none_iff.mpr ?_
    intro d hmem hne hstarts
    obtain ⟨j, hd⟩ := List.mem_iff_getElem?.mp hmem
    rcases eq_or_exists_of_inserted hd with rfl | ⟨i, hi, -⟩
    · exact h (Construct.opensHere_iff.mpr ⟨hne, hstarts⟩)
    · exact hopens d (List.mem_of_getElem? hi) hne hstarts
  | some found =>
    obtain ⟨d, i⟩ := found
    obtain ⟨hd, hhere, hbest⟩ := opensHere?_eq_some_iff.mp hopens
    refine opensHere?_eq_some_iff.mpr ⟨renumbers_inserted i d hd, hhere, ?_⟩
    intro e j he hehere
    rcases eq_or_exists_of_inserted he with rfl | ⟨k, hk, rfl⟩
    · exact absurd hehere h
    · -- the new indices are in the order of the old ones
      rcases hbest e k hk hehere with hshorter | ⟨hlength, hle⟩
      · exact .inl hshorter
      · exact .inr ⟨hlength, indexPast_le_indexPast hle⟩

/-! ## Scans -/

/-- **A construct that cannot open changes nothing**: put in anywhere among the constructs of a language, one
whose opening delimiter is empty or stands in none of the lines leaves each line its kind, and after each
step the same construct open, if any is, under the index that it has now. -/
theorem scan_inserted {steps : List Step} (h : ∀ line, Step.line line ∈ steps → c.Idle line) :
    scan (before ++ c :: after) none steps =
      (scan (before ++ after) none steps).map fun result =>
        (result.1, result.2.map (Opened.renumber (indexPast before.length))) := by
  have hfresh : ∀ o ∈ (none : Option Opened), o.Genuine (before ++ after) := by simp
  refine scan_renumber renumbers_inserted hfresh ?_
  intro line hmem text htext
  exact opensAlike_inserted ((h line hmem).not_opensHere htext)

/-- A delimiter that begins like a line comment and ends like a block comment, put in before both: what is
open is a block comment, whose index moves, and then a string, whose index does not. -/
theorem scan_inserted_slashes :
    let before : List Construct := [.doubleQuoted]
    let after : List Construct := [.lineComment ['/', '/'], .blockComment ['/', '*'] ['*', '/']]
    let c : Construct := .blockComment ['/', '/', '*'] ['/']
    let steps : List Step := [.line ['x', '/', '/'], .line ['/', '*', '/'], .line ['*', '/', '"']]
    (∀ line, Step.line line ∈ steps → c.Idle line) ∧
      scan (before ++ after) none steps =
        [(some .code, none), (some .comment, some ⟨.blockComment, 2⟩), (some .code, some ⟨.string, 0⟩)] ∧
      scan (before ++ c :: after) none steps =
        [(some .code, none), (some .comment, some ⟨.blockComment, 3⟩), (some .code, some ⟨.string, 0⟩)] := by
  intro before after c steps
  have hidle : ∀ line, Step.line line ∈ steps → c.Idle line := by
    intro line hmem
    obtain rfl | rfl | rfl : line = ['x', '/', '/'] ∨ line = ['/', '*', '/'] ∨ line = ['*', '/', '"'] := by
      simpa [steps] using hmem
    all_goals decide
  have hfresh : ∀ o ∈ (none : Option Opened), o.Genuine (before ++ after) := by simp
  have hscan : scan (before ++ after) none steps =
      [(some .code, none), (some .comment, some ⟨.blockComment, 2⟩), (some .code, some ⟨.string, 0⟩)] :=
    (scan_eq_lexer hfresh [['x', '/', '/'], ['/', '*', '/'], ['*', '/', '"']]).trans (by decide)
  refine ⟨hidle, hscan, ?_⟩
  rw [scan_inserted hidle, hscan]
  rfl

end LineCensus
