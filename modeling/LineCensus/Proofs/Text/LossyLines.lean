import LineCensus.Tally
import Mathlib.Data.List.Basic

/-!
# `Proofs.Text.LossyLines` — decoding and cutting lines commute

A file is cut into lines before it is decoded, a text after. For bytes that need not be well formed both
give the same lines, up to one carriage return at the very end: an ASCII byte ends whatever is unfinished
before it and stands for itself (`piecesFrom_append_ascii`), and no other bytes are decoded to its
character (`mem_of_mem_piecesFrom`). The second half rests on `Unfinished.Proper`: what is read so far of
a longer character is enough for its code point to lie above ASCII, which is what the ranges of the second
byte are for.

## Contents

* `feed` — the decoder as a machine that takes one byte, with what it completes and leaves;
* `decodeLossy_append_ascii`, `getLast?_of_getLast?_decodeLossy` — decoded text around an ASCII byte;
* `terminated_append_cons`, `separated_induction` — cutting after each separator;
* `length_terminated`, `length_terminated_le` — how many pieces there are;
* `lines_decodeLossy` — the lines of decoded bytes and the lines of a file.
-/

namespace LineCensus

open Text

variable {st : Option Unfinished} {b : UInt8} {bytes : List UInt8}

/-! ## One byte -/

/-- What a byte completes where a character may begin, and what is unfinished after it. -/
def feedLead (b : UInt8) : List (Option Char) × Option Unfinished :=
  match leadByte b with
  | .inl c => ([some c], none)
  | .inr (some u) => ([], some u)
  | .inr none => ([none], none)

/-- What a byte completes, and what is unfinished after it. A byte that does not continue the unfinished
character ends it as ill formed, and may begin another. -/
def feed : Option Unfinished → UInt8 → List (Option Char) × Option Unfinished
  | none, b => feedLead b
  | some u, b =>
    if u.low ≤ b ∧ b ≤ u.high then
      let bits := u.bits * 64 + (b.toNat - 0x80)
      match u.missing with
      | 0 | 1 => ([some (scalar bits)], none)
      | missing + 1 => ([], some ⟨missing, 0x80, 0xBF, bits⟩)
    else (none :: (feedLead b).1, (feedLead b).2)

/-- Decoding feeds one byte after the other. -/
theorem piecesFrom_cons :
    piecesFrom st (b :: bytes) = (feed st b).1 ++ piecesFrom (feed st b).2 bytes := by
  cases st with
  | none =>
    rw [piecesFrom, feed, feedLead]
    rcases leadByte b with c | _ | u <;> rfl
  | some u =>
    obtain ⟨missing, low, high, bits⟩ := u
    rw [piecesFrom, feed, feedLead]
    split
    · rcases missing with _ | _ | missing <;> rfl
    · rcases leadByte b with c | _ | u <;> rfl

/-- A byte completes something or leaves something unfinished. -/
theorem feed_ne : feed st b ≠ ([], none) := by
  cases st with
  | none =>
    simp only [feed, feedLead]
    split <;> simp
  | some u =>
    simp only [feed]
    split
    · split <;> simp
    · simp

/-! ## Code points -/

theorem toNat_scalar_of_lt {n : Nat} (h : n < 0x80) : (scalar n).toNat = n := by
  unfold scalar Char.ofNat
  rw [dif_pos (by left; omega)]
  rfl

/-- What is no scalar value is put as the character zero. -/
theorem toNat_scalar (n : Nat) : (scalar n).toNat = n ∨ (scalar n).toNat = 0 := by
  unfold scalar Char.ofNat
  by_cases hvalid : n.isValidChar
  · left
    rw [dif_pos hvalid]
    rfl
  · right
    rw [dif_neg hvalid]
    rfl

/-- The next byte of the character is none of ASCII, and its code point will be above ASCII. -/
structure Text.Unfinished.Proper (u : Unfinished) : Prop where
  low_ge : 0x80 ≤ u.low.toNat
  last_ge : u.missing ≤ 1 → 2 ≤ u.bits
  bits_ge : 1 < u.missing → 2 ≤ u.bits * 64 + (u.low.toNat - 0x80)

theorem leadByte_ascii (h : b.toNat < 0x80) : leadByte b = .inl (scalar b.toNat) := by
  have hlt : b < 0x80 := UInt8.lt_iff_toNat_lt.mpr h
  simp [leadByte, hlt]

/-- A byte that is a character by itself is the character of its number. -/
theorem leadByte_char {c : Char} (h : leadByte b = .inl c) : c.toNat = b.toNat := by
  by_cases hlt : b.toNat < 0x80
  · rw [leadByte_ascii hlt] at h
    obtain rfl := Sum.inl.inj h
    exact toNat_scalar_of_lt hlt
  · have hge : ¬ b < 0x80 := fun hb => hlt (UInt8.lt_iff_toNat_lt.mp hb)
    unfold leadByte at h
    rw [if_neg hge] at h
    repeat' split at h
    all_goals cases h

/-- After a byte that starts a character of more than two, with no bits of its own if it is the first
of its kind: then the range of the second byte makes up for that. -/
theorem Text.Unfinished.proper_of_second {missing : Nat} {first low high : UInt8} (hmany : 1 < missing)
    (hfirst : first.toNat ≤ b.toNat) (hlow : 0x82 ≤ low.toNat) :
    Proper ⟨missing, if b == first then low else 0x80, high, b.toNat - first.toNat⟩ := by
  have hfew : ¬ missing ≤ 1 := Nat.not_le.mpr hmany
  by_cases hb : b = first
  · rw [beq_iff_eq.mpr hb, if_pos rfl]
    refine ⟨?_, fun h => absurd h hfew, fun _ => ?_⟩
    · show 0x80 ≤ low.toNat
      omega
    · show 2 ≤ (b.toNat - first.toNat) * 64 + (low.toNat - 0x80)
      omega
  · have hne : b.toNat ≠ first.toNat := fun h => hb (UInt8.toNat_inj.mp h)
    rw [beq_eq_false_iff_ne.mpr hb, if_neg (by simp)]
    refine ⟨Nat.le_refl 0x80, fun h => absurd h hfew, fun _ => ?_⟩
    show 2 ≤ (b.toNat - first.toNat) * 64 + (0x80 - 0x80)
    omega

/-- The ranges of the second byte leave out what a shorter form could say. -/
theorem leadByte_proper {u : Unfinished} (h : leadByte b = .inr (some u)) : u.Proper := by
  unfold leadByte at h
  simp only [UInt8.lt_iff_toNat_lt, UInt8.reduceToNat] at h
  split at h
  · cases h
  split at h
  · cases h
  split at h
  · -- two bytes
    obtain rfl := Option.some.inj (Sum.inr.inj h)
    refine ⟨Nat.le_refl 0x80, ?_, ?_⟩
    · intro _
      show 2 ≤ b.toNat - 0xC0
      omega
    · intro hmore
      exact absurd hmore (Nat.lt_irrefl 1)
  split at h
  · -- three bytes
    obtain rfl := Option.some.inj (Sum.inr.inj h)
    have hfirst : (0xE0 : UInt8).toNat ≤ b.toNat := by
      show 0xE0 ≤ b.toNat
      omega
    exact Unfinished.proper_of_second (by decide) hfirst (by decide)
  split at h
  · -- four bytes
    obtain rfl := Option.some.inj (Sum.inr.inj h)
    have hfirst : (0xF0 : UInt8).toNat ≤ b.toNat := by
      show 0xF0 ≤ b.toNat
      omega
    exact Unfinished.proper_of_second (by decide) hfirst (by decide)
  · cases h

/-! ## The decoder at ASCII bytes -/

theorem feedLead_proper : ∀ u ∈ (feedLead b).2, u.Proper := by
  intro u hu
  unfold feedLead at hu
  split at hu
  · cases hu
  · next v hlead =>
    obtain rfl := Option.some.inj hu
    exact leadByte_proper hlead
  · cases hu

theorem feed_proper (hst : ∀ u ∈ st, u.Proper) : ∀ u ∈ (feed st b).2, u.Proper := by
  cases st with
  | none => exact feedLead_proper
  | some v =>
    obtain ⟨-, -, hbits⟩ := hst v rfl
    intro u hu
    simp only [feed] at hu
    split at hu
    · next hrange =>
      have hlow : v.low.toNat ≤ b.toNat := UInt8.le_iff_toNat_le.mp hrange.1
      split at hu
      · cases hu
      · cases hu
      · next missing hne hmissing =>
        obtain rfl := Option.some.inj hu
        have hsome : missing ≠ 0 := hne
        have := hbits (by omega)
        refine ⟨Nat.le_refl 0x80, ?_, ?_⟩
        · intro _
          show 2 ≤ v.bits * 64 + (b.toNat - 0x80)
          omega
        · intro _
          show 2 ≤ (v.bits * 64 + (b.toNat - 0x80)) * 64 + (0x80 - 0x80)
          omega
    · exact feedLead_proper u hu

/-- An ASCII byte continues nothing: what is unfinished ends there, and the byte is its character. -/
theorem feed_ascii (hst : ∀ u ∈ st, u.Proper) (hb : b.toNat < 0x80) :
    feed st b = (piecesFrom st [] ++ [some (scalar b.toNat)], none) := by
  have hlead : feedLead b = ([some (scalar b.toNat)], none) := by
    rw [feedLead, leadByte_ascii hb]
  cases st with
  | none => exact hlead
  | some u =>
    have hlow : ¬ u.low ≤ b := by
      rw [UInt8.le_iff_toNat_le]
      have := (hst u rfl).low_ge
      omega
    simp only [feed]
    rw [if_neg fun hrange => hlow hrange.1, hlead]
    rfl

theorem mem_feedLead {c : Char} (h : some c ∈ (feedLead b).1) : c.toNat = b.toNat := by
  unfold feedLead at h
  split at h
  · next c' hlead =>
    obtain rfl : c = c' := by simpa using h
    exact leadByte_char hlead
  · simp at h
  · simp at h

/-- A character of ASCII that a byte completes is the byte's own. -/
theorem mem_feed (hst : ∀ u ∈ st, u.Proper) {c : Char} (h : some c ∈ (feed st b).1)
    (hpos : 0 < c.toNat) (hlt : c.toNat < 0x80) : c.toNat = b.toNat := by
  cases st with
  | none => exact mem_feedLead h
  | some u =>
    have hlast := (hst u rfl).last_ge
    -- a character completed here has two bits or more from before, and lies above ASCII
    have hcode : u.missing ≤ 1 → c ≠ scalar (u.bits * 64 + (b.toNat - 0x80)) := by
      intro hmissing hc
      have := hlast hmissing
      have := toNat_scalar (u.bits * 64 + (b.toNat - 0x80))
      rw [hc] at hpos hlt
      omega
    simp only [feed] at h
    split at h
    · split at h
      · next hmissing => exact absurd (Option.some.inj (List.mem_singleton.mp h)) (hcode (by omega))
      · next hmissing => exact absurd (Option.some.inj (List.mem_singleton.mp h)) (hcode (by omega))
      · simp at h
    · rw [List.mem_cons] at h
      obtain h | h := h
      · cases h
      · exact mem_feedLead h

/-- **An ASCII byte cuts what is decoded.** What is before it is decoded as if the bytes ended there, and
what is after it from the start. -/
theorem piecesFrom_append_ascii {a : UInt8} (ha : a.toNat < 0x80) (hst : ∀ u ∈ st, u.Proper)
    (before after : List UInt8) :
    piecesFrom st (before ++ a :: after) =
      piecesFrom st before ++ some (scalar a.toNat) :: piecesFrom none after := by
  induction before generalizing st with
  | nil => rw [List.nil_append, piecesFrom_cons, feed_ascii hst ha, List.append_assoc, List.singleton_append]
  | cons b before ih =>
    rw [List.cons_append, piecesFrom_cons, piecesFrom_cons, ih (feed_proper hst), List.append_assoc]

/-- A character of ASCII, the character zero apart, is decoded from its own byte alone. -/
theorem mem_of_mem_piecesFrom (hst : ∀ u ∈ st, u.Proper) {c : Char} (h : some c ∈ piecesFrom st bytes)
    (hpos : 0 < c.toNat) (hlt : c.toNat < 0x80) : ∃ b ∈ bytes, b.toNat = c.toNat := by
  induction bytes generalizing st with
  | nil => cases st <;> simp [piecesFrom] at h
  | cons b bytes ih =>
    rw [piecesFrom_cons, List.mem_append] at h
    obtain h | h := h
    · exact ⟨b, List.mem_cons_self, (mem_feed hst h hpos hlt).symm⟩
    · obtain ⟨b', hmem, hb'⟩ := ih (feed_proper hst) h
      exact ⟨b', List.mem_cons_of_mem b hmem, hb'⟩

theorem piecesFrom_some_ne_nil (u : Unfinished) (bytes : List UInt8) : piecesFrom (some u) bytes ≠ [] := by
  induction bytes generalizing u with
  | nil => simp [piecesFrom]
  | cons b bytes ih =>
    intro h
    rw [piecesFrom_cons, List.append_eq_nil_iff] at h
    cases hrest : (feed (some u) b).2 with
    | none => exact feed_ne (Prod.ext h.1 hrest)
    | some v =>
      rw [hrest] at h
      exact ih v h.2

/-! ## Decoded text -/

theorem decodeLossy_append_ascii {a : UInt8} (ha : a.toNat < 0x80) (before after : List UInt8) :
    decodeLossy (before ++ a :: after) =
      decodeLossy before ++ scalar a.toNat :: decodeLossy after := by
  unfold decodeLossy pieces
  rw [piecesFrom_append_ascii ha (by simp), List.map_append, List.map_cons]
  rfl

theorem mem_of_mem_decodeLossy {a : UInt8} (hpos : 0 < a.toNat) (ha : a.toNat < 0x80)
    (h : scalar a.toNat ∈ decodeLossy bytes) : a ∈ bytes := by
  have hcode : (scalar a.toNat).toNat = a.toNat := toNat_scalar_of_lt ha
  obtain ⟨piece, hmem, hpiece⟩ := List.mem_map.mp h
  cases piece with
  | none =>
    -- the mark of an ill-formed stretch is not of ASCII
    have hmark : (scalar a.toNat).toNat = 0xFFFD := by rw [← hpiece]; rfl
    omega
  | some c =>
    obtain rfl : c = scalar a.toNat := hpiece
    obtain ⟨b, hb, hsame⟩ := mem_of_mem_piecesFrom (by simp) hmem (by omega) (by omega)
    rw [hcode, UInt8.toNat_inj] at hsame
    exact hsame ▸ hb

theorem decodeLossy_ne_nil (h : bytes ≠ []) : decodeLossy bytes ≠ [] := by
  cases bytes with
  | nil => exact absurd rfl h
  | cons b bytes =>
    intro hnil
    have hpieces : piecesFrom none (b :: bytes) = [] := List.map_eq_nil_iff.mp hnil
    rw [piecesFrom_cons, List.append_eq_nil_iff] at hpieces
    cases hrest : (feed none b).2 with
    | none => exact feed_ne (Prod.ext hpieces.1 hrest)
    | some u =>
      rw [hrest] at hpieces
      exact piecesFrom_some_ne_nil u bytes hpieces.2

/-! ## Cutting after a separator -/

/-- Induction from the last piece of a sequence to the first: a piece without the separator, and a piece
with the separator after it in front of the rest. -/
theorem separated_induction {α : Type} {P : List α → Prop} (sep : α) (last : ∀ s, sep ∉ s → P s)
    (piece : ∀ s rest, sep ∉ s → P rest → P (s ++ sep :: rest)) (s : List α) : P s := by
  by_cases hmem : sep ∈ s
  · obtain ⟨before, rest, rfl, hbefore⟩ := List.eq_append_cons_of_mem hmem
    exact piece before rest hbefore (separated_induction sep last piece rest)
  · exact last s hmem
termination_by s.length
decreasing_by
  subst_vars
  simp only [List.length_append, List.length_cons]
  omega

section Terminated

variable {α : Type} [BEq α] [LawfulBEq α] {sep : α} {s : List α}

theorem terminated_append_cons (h : sep ∉ s) (rest : List α) :
    terminated sep (s ++ sep :: rest) = (s ++ [sep]) :: terminated sep rest := by
  induction s with
  | nil => simp [terminated]
  | cons a s ih =>
    have hne : (a == sep) = false := by
      rw [beq_eq_false_iff_ne]
      rintro rfl
      exact h List.mem_cons_self
    have htail : sep ∉ s := fun hmem => h (List.mem_cons_of_mem a hmem)
    rw [List.cons_append, terminated, hne, ih htail]
    rfl

theorem terminated_of_not_mem (h : sep ∉ s) (hne : s ≠ []) : terminated sep s = [s] := by
  induction s with
  | nil => exact absurd rfl hne
  | cons a s ih =>
    have hhead : (a == sep) = false := by
      rw [beq_eq_false_iff_ne]
      rintro rfl
      exact h List.mem_cons_self
    have htail : sep ∉ s := fun hmem => h (List.mem_cons_of_mem a hmem)
    rw [terminated, hhead]
    by_cases hs : s = []
    · subst hs
      rfl
    · rw [ih htail hs]
      rfl

end Terminated

section Count

variable {α : Type} [DecidableEq α] {sep : α}

/-- There are as many pieces as separators, and one more if something follows the last of these. -/
theorem length_terminated (s : List α) :
    (terminated sep s).length =
      s.count sep + if s ≠ [] ∧ s.getLast? ≠ some sep then 1 else 0 := by
  induction s using separated_induction sep with
  | last s hs =>
    rw [List.count_eq_zero_of_not_mem hs, Nat.zero_add]
    by_cases hne : s = []
    · subst hne
      rfl
    · have hlast : s.getLast? ≠ some sep := fun h => hs (List.mem_of_getLast? h)
      rw [terminated_of_not_mem hs hne, if_pos ⟨hne, hlast⟩, List.length_singleton]
  | piece s rest hs ih =>
    have hcount : (s ++ sep :: rest).count sep = rest.count sep + 1 := by
      rw [List.count_append, List.count_eq_zero_of_not_mem hs, List.count_cons_self, Nat.zero_add]
    rw [terminated_append_cons hs, List.length_cons, ih, hcount, List.getLast?_append_cons]
    by_cases hrest : rest = []
    · subst hrest
      simp
    · rw [List.getLast?_cons_of_ne_nil hrest, Nat.add_right_comm]
      simp [hrest]

/-- No piece is empty, so there are no more pieces than elements. -/
theorem length_terminated_le (s : List α) : (terminated sep s).length ≤ s.length := by
  induction s using separated_induction sep with
  | last s hs =>
    by_cases hne : s = []
    · subst hne
      exact Nat.le_refl 0
    · rw [terminated_of_not_mem hs hne, List.length_singleton]
      exact List.length_pos_iff.mpr hne
  | piece s rest hs ih =>
    rw [terminated_append_cons hs, List.length_cons, List.length_append, List.length_cons]
    omega

end Count

/-! ## Lines -/

theorem stripLast_concat {c : Char} {s : List Char} : stripLast c (s ++ [c]) = s := by
  rw [stripLast, if_pos List.getLast?_concat, List.dropLast_concat]

theorem stripLast_of_ne {c : Char} {s : List Char} (h : s.getLast? ≠ some c) : stripLast c s = s := by
  rw [stripLast, if_neg h]

/-- A decoded text ends in a character of ASCII only where the bytes end in its byte. -/
theorem getLast?_of_getLast?_decodeLossy {a : UInt8} (hpos : 0 < a.toNat) (ha : a.toNat < 0x80)
    (h : (decodeLossy bytes).getLast? = some (scalar a.toNat)) : bytes.getLast? = some a := by
  induction bytes using separated_induction a with
  | last s hs => exact absurd (mem_of_mem_decodeLossy hpos ha (List.mem_of_getLast? h)) hs
  | piece s rest _ ih =>
    -- what follows the last occurrence, if anything, is decoded to something
    by_cases hrest : rest = []
    · subst hrest
      exact List.getLast?_concat
    · rw [decodeLossy_append_ascii ha] at h
      rw [List.getLast?_append_cons, List.getLast?_cons_of_ne_nil (decodeLossy_ne_nil hrest)] at h
      rw [List.getLast?_append_cons, List.getLast?_cons_of_ne_nil hrest]
      exact ih h

/-- **The lines of decoded bytes are the decoded lines of the bytes**, but for one case: at the end of the
bytes a carriage return that no line feed follows is part of the text's last line only. -/
theorem lines_decodeLossy (bytes : List UInt8) :
    lines (decodeLossy bytes) = (terminated 10 bytes).map lineOfBytes ∨
      bytes.getLast? = some 0x0D ∧ ∃ front last,
        lines (decodeLossy bytes) = front ++ [last ++ ['\r']] ∧
          (terminated 10 bytes).map lineOfBytes = front ++ [last] := by
  induction bytes using separated_induction (10 : UInt8) with
  | last s hs =>
    by_cases hne : s = []
    · left
      subst hne
      rfl
    have hfeed : '\n' ∉ decodeLossy s :=
      fun hmem => hs (mem_of_mem_decodeLossy (a := 10) (by decide) (by decide) hmem)
    -- no line feed is left: a file drops a carriage return here, a text keeps it
    have hlast : (decodeLossy s).getLast? ≠ some '\n' := fun h => hfeed (List.mem_of_getLast? h)
    have htext : lines (decodeLossy s) = [decodeLossy s] := by
      rw [lines, terminated_of_not_mem hfeed (decodeLossy_ne_nil hne), List.map_singleton, stripLineEnd,
        if_neg hlast]
    have hfile : (terminated 10 s).map lineOfBytes = [stripLast '\r' (decodeLossy s)] := by
      rw [terminated_of_not_mem hs hne, List.map_singleton, lineOfBytes, stripLast_of_ne hlast]
    rw [htext, hfile]
    by_cases hreturn : (decodeLossy s).getLast? = some '\r'
    · right
      refine ⟨getLast?_of_getLast?_decodeLossy (a := 13) (by decide) (by decide) hreturn, [],
        (decodeLossy s).dropLast, ?_, ?_⟩
      · rw [List.dropLast_append_getLast? '\r' hreturn, List.nil_append]
      · rw [stripLast, if_pos hreturn, List.nil_append]
    · left
      rw [stripLast_of_ne hreturn]
  | piece s rest hs ih =>
    have hfeed : '\n' ∉ decodeLossy s :=
      fun hmem => hs (mem_of_mem_decodeLossy (a := 10) (by decide) (by decide) hmem)
    have hdecoded : ∀ after, decodeLossy (s ++ 10 :: after) = decodeLossy s ++ '\n' :: decodeLossy after :=
      decodeLossy_append_ascii (a := 10) (by decide) s
    have hline : lineOfBytes (s ++ [10]) = stripLineEnd (decodeLossy s ++ ['\n']) := by
      have hpiece : decodeLossy (s ++ [10]) = decodeLossy s ++ ['\n'] := hdecoded []
      rw [lineOfBytes, hpiece, stripLast_concat, stripLineEnd, if_pos List.getLast?_concat,
        List.dropLast_concat]
    rw [hdecoded, lines, terminated_append_cons hfeed, terminated_append_cons hs, List.map_cons,
      List.map_cons, hline, ← lines]
    obtain hsame | ⟨hreturn, front, last, htext, hfile⟩ := ih
    · left
      rw [hsame]
    · right
      refine ⟨?_, stripLineEnd (decodeLossy s ++ ['\n']) :: front, last, ?_, ?_⟩
      · have hrest : rest ≠ [] := by
          rintro rfl
          cases hreturn
        rw [List.getLast?_append_cons, List.getLast?_cons_of_ne_nil hrest]
        exact hreturn
      · rw [htext]
        rfl
      · rw [hfile]
        rfl

end LineCensus
