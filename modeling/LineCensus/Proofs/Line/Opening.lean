import LineCensus.Line.Classify
import LineCensus.Proofs.Line.Occurrence
import Mathlib.Data.Prod.Lex
import Mathlib.Order.Bounds.Defs

/-!
# `Proofs.Line.Opening` — the opening that is chosen comes before all others

`earliest?` folds over the constructs and keeps one opening. Here it is compared with every occurrence
of every opening delimiter in the text, and not only with those the fold looked at.

Of a construct the fold sees no more than the first occurrence of its delimiter, and has where that starts by
subtraction from where it ends. The best opening so far is kept in the order of `Opening.NoLater`, which ranks
places as `openingRank` does. So in the end the opening is the least of all places where any construct of the
list can open.

## Contents

* `Opening.NoLater` — the order: where it starts, then the longer delimiter, then the index;
* `Opening.choose_noLater`, `earliestFrom?_noLater` — one step of the fold, and the fold;
* `earliest?_noLater` — every occurrence; `earliest?_start_le`, where it starts;
* `openingRank`, `openingRanks`, `Opening.NoLater.rank_le` — the same order on the places in the text;
* `earliest?_isLeast` — the opening is the least of them, and there is one unless no delimiter occurs.
-/

namespace LineCensus

open Text

/-! ## The order of openings -/

/-- The opening starts earlier than the other; or it starts with it and is longer; or its construct is
the same or an earlier one. -/
def Opening.NoLater (o o' : Opening) : Prop :=
  o.start < o'.start ∨
    o.start = o'.start ∧ (o'.stop < o.stop ∨ o.stop = o'.stop ∧ o.index ≤ o'.index)

theorem Opening.NoLater.refl (o : Opening) : o.NoLater o :=
  Or.inr ⟨rfl, Or.inr ⟨rfl, Nat.le_refl _⟩⟩

theorem Opening.NoLater.trans {o o' o'' : Opening} (h : o.NoLater o') (h' : o'.NoLater o'') :
    o.NoLater o'' := by
  unfold Opening.NoLater at *
  omega

/-- The better of two openings comes no later than either, if the first has the lower index. -/
theorem Opening.choose_noLater {best found : Option Opening}
    (hindex : ∀ b ∈ best, ∀ f ∈ found, b.index < f.index) {o : Opening}
    (ho : o ∈ best ∨ o ∈ found) : ∃ b ∈ Opening.choose best found, b.NoLater o := by
  cases best with
  | none =>
    have ho' : o ∈ found := ho.resolve_left (by simp)
    cases found with
    | none => exact absurd ho' (by simp)
    | some f => exact ⟨o, ho', Opening.NoLater.refl o⟩
  | some b =>
    cases found with
    | none => exact ⟨o, ho.resolve_right (by simp), Opening.NoLater.refl o⟩
    | some f =>
      have hlt : b.index < f.index := hindex b rfl f rfl
      -- the later construct is taken only if it starts earlier or is longer
      by_cases hp : f.precedes b = true
      · refine ⟨f, by simp [Opening.choose, hp], ?_⟩
        simp only [Opening.precedes, Bool.or_eq_true, Bool.and_eq_true, decide_eq_true_eq,
          beq_iff_eq] at hp
        rcases ho with ho | ho
        · obtain rfl := Option.some.inj ho
          unfold Opening.NoLater
          omega
        · obtain rfl := Option.some.inj ho
          exact Opening.NoLater.refl _
      · refine ⟨b, by simp [Opening.choose, hp], ?_⟩
        simp only [Opening.precedes, Bool.or_eq_true, Bool.and_eq_true, decide_eq_true_eq,
          beq_iff_eq] at hp
        rcases ho with ho | ho
        · obtain rfl := Option.some.inj ho
          exact Opening.NoLater.refl _
        · obtain rfl := Option.some.inj ho
          unfold Opening.NoLater
          omega

/-! ## The fold -/

/-- The opening of one construct is at the first occurrence of its delimiter. -/
theorem opening?_of_find? {index n : Nat} {c : Construct} {text : List Char} (hne : c.opening ≠ [])
    (hfind : find? c.opening text = some n) :
    opening? index c text = .ok (some ⟨index, n, n + byteLength c.opening⟩) := by
  obtain ⟨before, after, htext, rfl⟩ := exists_of_find?_eq_some hfind
  have hle : byteLength before + byteLength c.opening ≤ byteLength text := by
    rw [htext]
    simp
  have hopens : c.opens text =
      .afterDelimiter (byteLength before + byteLength c.opening) (byteLength text) := by
    simp [Construct.opens, findDelimiter, hne, hfind]
  simp [opening?, hne, hopens, Position.resolve_afterDelimiter hle]

theorem earliestFrom?_noLater {text : List Char} {cs : List Construct} {best r : Option Opening}
    {index : Nat} (hbest : ∀ b ∈ best, b.index < index)
    (h : earliestFrom? text best index cs = .ok r) :
    (∀ b ∈ best, ∃ o ∈ r, o.NoLater b) ∧
      ∀ i c n, cs[i]? = some c → c.opening ≠ [] → find? c.opening text = some n →
        ∃ o ∈ r, o.NoLater ⟨index + i, n, n + byteLength c.opening⟩ := by
  induction cs generalizing best index with
  | nil =>
    obtain rfl : best = r := Except.ok.inj h
    exact ⟨fun b hb => ⟨b, hb, Opening.NoLater.refl b⟩, fun i c n hc => absurd hc (by simp)⟩
  | cons c cs ih =>
    obtain ⟨found, hfound, hstands⟩ := opening?_spec index c text
    simp only [earliestFrom?, hfound] at h
    have hlater : ∀ b ∈ best, ∀ f ∈ found, b.index < f.index := by
      intro b hb f hf
      rw [(hstands f hf).1]
      exact hbest b hb
    have hchosen : ∀ b ∈ Opening.choose best found, b.index < index + 1 := by
      intro b hb
      rcases Opening.mem_or_mem_of_mem_choose hb with hb' | hb'
      · exact Nat.lt_succ_of_lt (hbest b hb')
      · rw [(hstands b hb').1]
        exact Nat.lt_succ_self _
    -- what is chosen here is beaten only by something that comes no later
    obtain ⟨hkept, hrest⟩ := ih hchosen h
    have hthrough : ∀ o, o ∈ best ∨ o ∈ found → ∃ o' ∈ r, o'.NoLater o := by
      intro o ho
      obtain ⟨b, hb, hbo⟩ := Opening.choose_noLater hlater ho
      obtain ⟨o', ho', hle⟩ := hkept b hb
      exact ⟨o', ho', hle.trans hbo⟩
    refine ⟨fun b hb => hthrough b (Or.inl hb), ?_⟩
    intro i d n hd hne hfind
    cases i with
    | zero =>
      obtain rfl : c = d := by simpa using hd
      have hsome : found = some ⟨index, n, n + byteLength c.opening⟩ :=
        Except.ok.inj (hfound.symm.trans (opening?_of_find? hne hfind))
      exact hthrough _ (Or.inr hsome)
    | succ i =>
      rw [show index + (i + 1) = index + 1 + i by omega]
      exact hrest i d n hd hne hfind

/-- **The opening chosen comes no later than any occurrence of any opening delimiter.** -/
theorem earliest?_noLater {cs : List Construct} {text before after : List Char} {r : Option Opening}
    (h : earliest? cs text = .ok r) {i : Nat} {c : Construct} (hc : cs[i]? = some c)
    (hne : c.opening ≠ []) (htext : text = before ++ (c.opening ++ after)) :
    ∃ o ∈ r, o.NoLater ⟨i, byteLength before, byteLength (before ++ c.opening)⟩ := by
  obtain ⟨n, hfind, hle⟩ := find?_append_le (d := c.opening) before after
  rw [← htext] at hfind
  obtain ⟨o, ho, hfirst⟩ := (earliestFrom?_noLater (by simp) h).2 i c n hc hne hfind
  refine ⟨o, ho, hfirst.trans ?_⟩
  unfold Opening.NoLater
  rw [byteLength_append]
  simp only
  omega

/-- What is chosen starts no later than where any delimiter stands. -/
theorem earliest?_start_le {cs : List Construct} {text before after : List Char} {r : Option Opening}
    (h : earliest? cs text = .ok r) {c : Construct} (hc : c ∈ cs) (hne : c.opening ≠ [])
    (htext : text = before ++ (c.opening ++ after)) : ∃ o ∈ r, o.start ≤ byteLength before := by
  obtain ⟨i, hi⟩ := List.mem_iff_getElem?.mp hc
  obtain ⟨o, ho, hfirst⟩ := earliest?_noLater h hi hne htext
  refine ⟨o, ho, ?_⟩
  rcases hfirst with hlt | ⟨heq, -⟩
  · exact Nat.le_of_lt hlt
  · exact Nat.le_of_eq heq

/-! ## The least place -/

/-- What decides between places where constructs can open: where the delimiter starts, then its length, the
longer one first, and then the index of the construct. -/
def openingRank (start : Nat) (delimiter : List Char) (index : Nat) : ℕ ×ₗ ℤ ×ₗ ℕ :=
  toLex (start, toLex (-(byteLength delimiter : ℤ), index))

/-- The ranks of all places in the text where a construct can open: wherever its opening delimiter stands,
unless that is empty. -/
def openingRanks (cs : List Construct) (text : List Char) : Set (ℕ ×ₗ ℤ ×ₗ ℕ) :=
  {rank | ∃ index c before after, cs[index]? = some c ∧ c.opening ≠ [] ∧
    text = before ++ c.opening ++ after ∧ rank = openingRank (byteLength before) c.opening index}

/-- An opening that comes no later has no greater rank. -/
theorem Opening.NoLater.rank_le {start start' index index' : Nat} {d d' : List Char}
    (h : Opening.NoLater ⟨index, start, start + byteLength d⟩ ⟨index', start', start' + byteLength d'⟩) :
    openingRank start d index ≤ openingRank start' d' index' := by
  unfold Opening.NoLater at h
  unfold openingRank
  simp only at h
  rw [Prod.Lex.toLex_le_toLex]
  rcases h with hstart | ⟨hstart, hlonger | ⟨hstop, hindex⟩⟩
  · exact Or.inl hstart
  · refine Or.inr ⟨hstart, ?_⟩
    rw [Prod.Lex.toLex_le_toLex]
    left
    show -(byteLength d : ℤ) < -(byteLength d' : ℤ)
    omega
  · refine Or.inr ⟨hstart, ?_⟩
    rw [Prod.Lex.toLex_le_toLex]
    right
    refine ⟨?_, hindex⟩
    show -(byteLength d : ℤ) = -(byteLength d' : ℤ)
    omega

/-- **The opening is the least of all places where a construct can open**: of all occurrences of all opening
delimiters that are not empty it is the first, of those that start there the longest, and of equally long ones
that of the first construct. It is found without a fault, and nothing is found exactly if no such delimiter
occurs. Its offsets are those of the delimiter of its construct, and none starts before it. -/
theorem earliest?_isLeast (cs : List Construct) (text : List Char) :
    ∃ r, earliest? cs text = .ok r ∧
      (r = none ↔ ∀ c ∈ cs, c.opening ≠ [] → ¬ c.opening <:+: text) ∧
      ∀ o, r = some o →
        ∃ c before after, cs[o.index]? = some c ∧ c.opening ≠ [] ∧ text = before ++ c.opening ++ after ∧
          o.start = byteLength before ∧ o.stop = o.start + byteLength c.opening ∧
          IsLeast (openingRanks cs text) (openingRank o.start c.opening o.index) ∧
          ∀ d ∈ cs, d.opening ≠ [] → ∀ front back, text = front ++ d.opening ++ back →
            o.start ≤ byteLength front := by
  obtain ⟨r, hr, hstands⟩ := earliest?_spec cs text
  refine ⟨r, hr, ?_, ?_⟩
  · constructor
    · rintro rfl c hc hne ⟨before, after, htext⟩
      obtain ⟨o, ho, -⟩ := earliest?_start_le hr hc hne (by rw [← List.append_assoc, htext])
      cases ho
    · intro hnowhere
      cases r with
      | none => rfl
      | some o =>
        obtain ⟨c, before, after, hc, hne, htext, -, -⟩ := hstands o rfl
        exact absurd ⟨before, after, htext.symm⟩ (hnowhere c (List.mem_of_getElem? hc) hne)
  · intro o ho
    subst ho
    obtain ⟨c, before, after, hc, hne, htext, hstart, hstop⟩ := hstands o rfl
    rw [byteLength_append, ← hstart] at hstop
    refine ⟨c, before, after, hc, hne, htext, hstart, hstop, ⟨?_, ?_⟩, ?_⟩
    · exact ⟨o.index, c, before, after, hc, hne, htext, by rw [hstart]⟩
    · -- every other place comes no earlier
      rintro _ ⟨i, d, front, back, hd, hdne, hplace, rfl⟩
      rw [List.append_assoc] at hplace
      obtain ⟨o', ho', hfirst⟩ := earliest?_noLater hr hd hdne hplace
      obtain rfl := Option.some.inj ho'
      apply Opening.NoLater.rank_le
      rw [← hstop, ← byteLength_append]
      exact hfirst
    · intro d hd hdne front back hplace
      rw [List.append_assoc] at hplace
      obtain ⟨o', ho', hle⟩ := earliest?_start_le hr hd hdne hplace
      obtain rfl := Option.some.inj ho'
      exact hle

example : earliest? [.lineComment "--".toList, .blockComment "--[[".toList "]]".toList] "x --[[ y".toList =
    .ok (some ⟨1, 2, 6⟩) := by decide

end LineCensus
