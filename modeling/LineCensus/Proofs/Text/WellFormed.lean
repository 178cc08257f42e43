import LineCensus.Proofs.Text.ByteSearch
import LineCensus.Proofs.Text.LossyLines

/-!
# `Proofs.Text.WellFormed` — what the decoder accepts

The strict decoder refuses some bytes and reads others as a text. What it accepts is described without the
decoder: the bytes are the UTF-8 form of a text, and of that text only. The decoder knows a form by a lead
byte and ranges for the bytes after it (`IsForm`); that these are the forms of characters and no other bytes
is arithmetic, one statement for each length (`utf8EncodeChar_two` and the like). It is needed in one
direction only: the other follows because the form of a character determines the character.

## Contents

* `Unfinished.Completes` — the bytes that complete an unfinished character;
* `IsForm`, `isForm_iff` — the bytes of one character, for the decoder and by their definition;
* `decode?_eq_some_iff` — the main statement; `decode?_eq_none_iff` — the decoder refuses exactly what the
  standard library does not call valid.
-/

namespace LineCensus

open Text

variable {b : UInt8} {u : Unfinished} {c : Char}

/-! ## Completing a character -/

theorem feed_last (hrange : u.low ≤ b ∧ b ≤ u.high) (hmissing : u.missing ≤ 1) :
    feed (some u) b = ([some (scalar (u.bits * 64 + (b.toNat - 0x80)))], none) := by
  obtain ⟨missing, low, high, bits⟩ := u
  simp only [feed]
  rw [if_pos hrange]
  rcases missing with _ | _ | missing
  · rfl
  · rfl
  · exact absurd hmissing (by simp)

theorem feed_next {missing : Nat} (hrange : u.low ≤ b ∧ b ≤ u.high)
    (hmissing : u.missing = missing + 2) :
    feed (some u) b = ([], some ⟨missing + 1, 0x80, 0xBF, u.bits * 64 + (b.toNat - 0x80)⟩) := by
  obtain ⟨_, low, high, bits⟩ := u
  obtain rfl := hmissing
  simp only [feed]
  rw [if_pos hrange]

theorem none_mem_feed (hrange : ¬ (u.low ≤ b ∧ b ≤ u.high)) : none ∈ (feed (some u) b).1 := by
  simp only [feed]
  rw [if_neg hrange]
  exact List.mem_cons_self

/-- The bytes that complete an unfinished character, and the character that they make of it. -/
inductive Text.Unfinished.Completes : Unfinished → List UInt8 → Char → Prop where
  | last {u : Unfinished} {b : UInt8} (hrange : u.low ≤ b ∧ b ≤ u.high) (hmissing : u.missing ≤ 1) :
      Completes u [b] (scalar (u.bits * 64 + (b.toNat - 0x80)))
  | next {u : Unfinished} {b : UInt8} {missing : Nat} {tail : List UInt8} {c : Char}
      (hrange : u.low ≤ b ∧ b ≤ u.high) (hmissing : u.missing = missing + 2)
      (hrest : Completes ⟨missing + 1, 0x80, 0xBF, u.bits * 64 + (b.toNat - 0x80)⟩ tail c) :
      Completes u (b :: tail) c

/-- What completes a character is decoded to it, whatever follows. -/
theorem Text.Unfinished.Completes.piecesFrom_append {tail : List UInt8} (h : u.Completes tail c)
    (rest : List UInt8) : piecesFrom (some u) (tail ++ rest) = some c :: piecesFrom none rest := by
  induction h with
  | last hrange hmissing => rw [List.singleton_append, piecesFrom_cons, feed_last hrange hmissing]; rfl
  | next hrange hmissing _ ih => rw [List.cons_append, piecesFrom_cons, feed_next hrange hmissing, ih]; rfl

/-- Bytes that are decoded without a fault begin with what completes the unfinished character. -/
theorem Text.Unfinished.exists_completes {bytes : List UInt8} (h : none ∉ piecesFrom (some u) bytes) :
    ∃ tail c rest, bytes = tail ++ rest ∧ u.Completes tail c := by
  induction bytes generalizing u with
  | nil => exact absurd (List.mem_singleton_self none) h
  | cons b bytes ih =>
    rw [piecesFrom_cons, List.mem_append, not_or] at h
    by_cases hrange : u.low ≤ b ∧ b ≤ u.high
    · by_cases hmissing : u.missing ≤ 1
      · exact ⟨[b], _, bytes, rfl, .last hrange hmissing⟩
      · obtain ⟨missing, hmissing⟩ : ∃ missing, u.missing = missing + 2 := ⟨u.missing - 2, by omega⟩
        rw [feed_next hrange hmissing] at h
        obtain ⟨tail, c, rest, rfl, htail⟩ := ih h.2
        exact ⟨b :: tail, c, rest, rfl, .next hrange hmissing htail⟩
    · exact absurd (none_mem_feed hrange) h.1

/-! ## The bytes of one character -/

/-- What the decoder takes for the bytes of a character. -/
inductive IsForm : List UInt8 → Char → Prop where
  | single {b : UInt8} {c : Char} (hlead : leadByte b = .inl c) : IsForm [b] c
  | longer {b : UInt8} {u : Unfinished} {tail : List UInt8} {c : Char}
      (hlead : leadByte b = .inr (some u)) (htail : u.Completes tail c) : IsForm (b :: tail) c

theorem IsForm.pieces_append {form : List UInt8} (h : IsForm form c) (rest : List UInt8) :
    pieces (form ++ rest) = some c :: pieces rest := by
  unfold pieces
  cases h with
  | single hlead => rw [List.singleton_append, piecesFrom_cons, feed, feedLead, hlead]; rfl
  | longer hlead htail =>
    rw [List.cons_append, piecesFrom_cons, feed, feedLead, hlead]
    exact htail.piecesFrom_append rest

/-- Bytes that are decoded without a fault begin with those of a character. -/
theorem exists_isForm {bytes : List UInt8} (hne : bytes ≠ []) (h : none ∉ pieces bytes) :
    ∃ form c rest, bytes = form ++ rest ∧ IsForm form c := by
  obtain ⟨b, bytes, rfl⟩ := List.exists_cons_of_ne_nil hne
  rw [pieces, piecesFrom_cons, feed, feedLead] at h
  cases hlead : leadByte b with
  | inl c => exact ⟨[b], c, bytes, rfl, .single hlead⟩
  | inr u =>
    rw [hlead] at h
    cases u with
    | none => exact absurd List.mem_cons_self h
    | some u =>
      obtain ⟨tail, c, rest, rfl, htail⟩ := Unfinished.exists_completes (u := u) h
      exact ⟨b :: tail, c, rest, rfl, .longer hlead htail⟩

/-! ## The arithmetic of forms -/

theorem toNat_scalar_of_valid {n : Nat} (h : n.isValidChar) : (scalar n).val.toNat = n := by
  unfold scalar Char.ofNat
  rw [dif_pos h]
  rfl

section Arithmetic

variable {b₁ b₂ b₃ : UInt8}

/-- The range of a second byte that a lead byte narrows from below. -/
theorem narrowed_low_le {first low : UInt8} : (if b == first then low else 0x80) ≤ b₁ ↔
    (b.toNat = first.toNat → low.toNat ≤ b₁.toNat) ∧ (b.toNat ≠ first.toNat → 0x80 ≤ b₁.toNat) := by
  by_cases h : b = first
  · simp [h, UInt8.le_iff_toNat_le]
  · have hne : b.toNat ≠ first.toNat := mt UInt8.toNat_inj.mp h
    simp [h, hne, UInt8.le_iff_toNat_le]

/-- The range of a second byte that a lead byte narrows from above. -/
theorem le_narrowed_high {first high : UInt8} : b₁ ≤ (if b == first then high else 0xBF) ↔
    (b.toNat = first.toNat → b₁.toNat ≤ high.toNat) ∧ (b.toNat ≠ first.toNat → b₁.toNat ≤ 0xBF) := by
  by_cases h : b = first
  · simp [h, UInt8.le_iff_toNat_le]
  · have hne : b.toNat ≠ first.toNat := mt UInt8.toNat_inj.mp h
    simp [h, hne, UInt8.le_iff_toNat_le]

theorem utf8EncodeChar_one (hb : b.toNat < 0x80) : String.utf8EncodeChar (scalar b.toNat) = [b] := by
  have hcode : (scalar b.toNat).val.toNat = b.toNat := toNat_scalar_of_valid (.inl (by omega))
  unfold String.utf8EncodeChar
  simp only [hcode]
  rw [if_pos (by omega), UInt8.ofNat_toNat]

theorem utf8EncodeChar_two (hb : 0xC2 ≤ b.toNat) (hb' : b.toNat < 0xE0) (h₁ : 0x80 ≤ b₁.toNat)
    (h₁' : b₁.toNat ≤ 0xBF) :
    String.utf8EncodeChar (scalar ((b.toNat - 0xC0) * 64 + (b₁.toNat - 0x80))) = [b, b₁] := by
  have hcode : (scalar ((b.toNat - 0xC0) * 64 + (b₁.toNat - 0x80))).val.toNat =
      (b.toNat - 0xC0) * 64 + (b₁.toNat - 0x80) := toNat_scalar_of_valid (.inl (by omega))
  unfold String.utf8EncodeChar
  simp only [hcode]
  rw [if_neg (by omega), if_pos (by omega)]
  simp only [List.cons.injEq, ← UInt8.toNat_inj, UInt8.toNat_ofNat', and_true]
  omega

theorem utf8EncodeChar_three (hb : 0xE0 ≤ b.toNat) (hb' : b.toNat < 0xF0) (h₁ : 0x80 ≤ b₁.toNat)
    (h₁' : b₁.toNat ≤ 0xBF) (hlow : b.toNat = 0xE0 → 0xA0 ≤ b₁.toNat)
    (hhigh : b.toNat = 0xED → b₁.toNat ≤ 0x9F) (h₂ : 0x80 ≤ b₂.toNat) (h₂' : b₂.toNat ≤ 0xBF) :
    String.utf8EncodeChar
      (scalar (((b.toNat - 0xE0) * 64 + (b₁.toNat - 0x80)) * 64 + (b₂.toNat - 0x80))) = [b, b₁, b₂] := by
  have hcode : (scalar (((b.toNat - 0xE0) * 64 + (b₁.toNat - 0x80)) * 64 + (b₂.toNat - 0x80))).val.toNat =
      ((b.toNat - 0xE0) * 64 + (b₁.toNat - 0x80)) * 64 + (b₂.toNat - 0x80) :=
    toNat_scalar_of_valid (by unfold Nat.isValidChar; omega)
  unfold String.utf8EncodeChar
  simp only [hcode]
  rw [if_neg (by omega), if_neg (by omega), if_pos (by omega)]
  simp only [List.cons.injEq, ← UInt8.toNat_inj, UInt8.toNat_ofNat', and_true]
  omega

theorem utf8EncodeChar_four (hb : 0xF0 ≤ b.toNat) (hb' : b.toNat < 0xF5) (h₁ : 0x80 ≤ b₁.toNat)
    (h₁' : b₁.toNat ≤ 0xBF) (hlow : b.toNat = 0xF0 → 0x90 ≤ b₁.toNat)
    (hhigh : b.toNat = 0xF4 → b₁.toNat ≤ 0x8F) (h₂ : 0x80 ≤ b₂.toNat) (h₂' : b₂.toNat ≤ 0xBF)
    (h₃ : 0x80 ≤ b₃.toNat) (h₃' : b₃.toNat ≤ 0xBF) :
    String.utf8EncodeChar (scalar
      ((((b.toNat - 0xF0) * 64 + (b₁.toNat - 0x80)) * 64 + (b₂.toNat - 0x80)) * 64 + (b₃.toNat - 0x80))) =
      [b, b₁, b₂, b₃] := by
  have hcode : (scalar ((((b.toNat - 0xF0) * 64 + (b₁.toNat - 0x80)) * 64 + (b₂.toNat - 0x80)) * 64 +
        (b₃.toNat - 0x80))).val.toNat =
      (((b.toNat - 0xF0) * 64 + (b₁.toNat - 0x80)) * 64 + (b₂.toNat - 0x80)) * 64 + (b₃.toNat - 0x80) :=
    toNat_scalar_of_valid (by unfold Nat.isValidChar; omega)
  unfold String.utf8EncodeChar
  simp only [hcode]
  rw [if_neg (by omega), if_neg (by omega), if_neg (by omega)]
  simp only [List.cons.injEq, ← UInt8.toNat_inj, UInt8.toNat_ofNat', and_true]
  omega

end Arithmetic

/-! ## Lead bytes -/

theorem leadByte_two (hb : 0xC2 ≤ b.toNat) (hb' : b.toNat < 0xE0) :
    leadByte b = .inr (some ⟨1, 0x80, 0xBF, b.toNat - 0xC0⟩) := by
  unfold leadByte
  simp only [UInt8.lt_iff_toNat_lt, UInt8.reduceToNat]
  rw [if_neg (by omega), if_neg (by omega), if_pos (by omega)]

theorem leadByte_three (hb : 0xE0 ≤ b.toNat) (hb' : b.toNat < 0xF0) :
    leadByte b = .inr (some ⟨2, if b == 0xE0 then 0xA0 else 0x80, if b == 0xED then 0x9F else 0xBF,
      b.toNat - 0xE0⟩) := by
  unfold leadByte
  simp only [UInt8.lt_iff_toNat_lt, UInt8.reduceToNat]
  rw [if_neg (by omega), if_neg (by omega), if_neg (by omega), if_pos (by omega)]

theorem leadByte_four (hb : 0xF0 ≤ b.toNat) (hb' : b.toNat < 0xF5) :
    leadByte b = .inr (some ⟨3, if b == 0xF0 then 0x90 else 0x80, if b == 0xF4 then 0x8F else 0xBF,
      b.toNat - 0xF0⟩) := by
  unfold leadByte
  simp only [UInt8.lt_iff_toNat_lt, UInt8.reduceToNat]
  rw [if_neg (by omega), if_neg (by omega), if_neg (by omega), if_neg (by omega), if_pos (by omega)]

/-- A byte that starts a longer character is one of three kinds. -/
theorem leadByte_range (h : leadByte b = .inr (some u)) : 0xC2 ≤ b.toNat ∧ b.toNat < 0xF5 := by
  unfold leadByte at h
  simp only [UInt8.lt_iff_toNat_lt, UInt8.reduceToNat] at h
  split at h
  · cases h
  split at h
  · cases h
  · by_cases hlt : b.toNat < 0xF5
    · exact ⟨by omega, hlt⟩
    · rw [if_neg (by omega), if_neg (by omega), if_neg hlt] at h
      cases h

theorem leadByte_unique {v : Unfinished} (h : leadByte b = .inr (some v))
    (h' : leadByte b = .inr (some u)) : v = u :=
  Option.some.inj (Sum.inr.inj (h.symm.trans h'))

theorem toNat_lt_of_leadByte_char (h : leadByte b = .inl c) : b.toNat < 0x80 := by
  by_contra hge
  unfold leadByte at h
  rw [if_neg (by simpa [UInt8.lt_iff_toNat_lt] using hge)] at h
  repeat' split at h
  all_goals cases h

/-- The last byte of a character. -/
theorem completes_one {low high : UInt8} {bits : Nat} {tail : List UInt8}
    (h : Unfinished.Completes ⟨1, low, high, bits⟩ tail c) :
    ∃ b₁, tail = [b₁] ∧ (low ≤ b₁ ∧ b₁ ≤ high) ∧ c = scalar (bits * 64 + (b₁.toNat - 0x80)) := by
  cases h with
  | last hrange _ => exact ⟨_, rfl, hrange, rfl⟩
  | next _ hmissing _ => cases hmissing

/-- A byte of a character that is not the last. -/
theorem completes_next {missing bits : Nat} {low high : UInt8} {tail : List UInt8}
    (h : Unfinished.Completes ⟨missing + 2, low, high, bits⟩ tail c) :
    ∃ b₁ rest, tail = b₁ :: rest ∧ (low ≤ b₁ ∧ b₁ ≤ high) ∧
      Unfinished.Completes ⟨missing + 1, 0x80, 0xBF, bits * 64 + (b₁.toNat - 0x80)⟩ rest c := by
  cases h with
  | last _ hmissing => exact absurd hmissing (by simp)
  | next hrange hmissing hrest =>
    cases hmissing
    exact ⟨_, _, rfl, hrange, hrest⟩

/-- What the decoder takes for the bytes of a character are the bytes of that character. -/
theorem IsForm.utf8EncodeChar {form : List UInt8} (h : IsForm form c) : String.utf8EncodeChar c = form := by
  cases h with
  | @single b _ hlead =>
    have hb := toNat_lt_of_leadByte_char hlead
    obtain rfl : scalar b.toNat = c := by rw [leadByte_ascii hb] at hlead; exact Sum.inl.inj hlead
    exact utf8EncodeChar_one hb
  | @longer b u tail _ hlead htail =>
    obtain ⟨hge, hlt⟩ := leadByte_range hlead
    by_cases htwo : b.toNat < 0xE0
    · obtain rfl := leadByte_unique (leadByte_two hge htwo) hlead
      obtain ⟨b₁, rfl, h₁, hc⟩ := completes_one htail
      rw [hc]
      simp only [UInt8.le_iff_toNat_le, UInt8.reduceToNat] at h₁
      exact utf8EncodeChar_two hge htwo h₁.1 h₁.2
    by_cases hthree : b.toNat < 0xF0
    · obtain rfl := leadByte_unique (leadByte_three (by omega) hthree) hlead
      obtain ⟨b₁, _, rfl, h₁, htail⟩ := completes_next htail
      obtain ⟨b₂, rfl, h₂, hc⟩ := completes_one htail
      rw [hc]
      rw [narrowed_low_le, le_narrowed_high] at h₁
      simp only [UInt8.le_iff_toNat_le, UInt8.reduceToNat] at h₁ h₂
      apply utf8EncodeChar_three <;> omega
    · obtain rfl := leadByte_unique (leadByte_four (by omega) hlt) hlead
      obtain ⟨b₁, _, rfl, h₁, htail⟩ := completes_next htail
      obtain ⟨b₂, _, rfl, h₂, htail⟩ := completes_next htail
      obtain ⟨b₃, rfl, h₃, hc⟩ := completes_one htail
      rw [hc]
      rw [narrowed_low_le, le_narrowed_high] at h₁
      simp only [UInt8.le_iff_toNat_le, UInt8.reduceToNat] at h₁ h₂ h₃
      apply utf8EncodeChar_four <;> omega

/-- The decoder takes the bytes of a character for a form, of some character. -/
theorem exists_isForm_utf8EncodeChar (c : Char) : ∃ c', IsForm (String.utf8EncodeChar c) c' := by
  have hvalid : c.val.toNat.isValidChar := c.valid
  unfold Nat.isValidChar at hvalid
  unfold String.utf8EncodeChar
  generalize c.val.toNat = n at hvalid
  show ∃ c', IsForm (if n ≤ 127 then _ else if n ≤ 2047 then _ else if n ≤ 65535 then _ else _) c'
  split
  · refine ⟨_, .single (leadByte_ascii ?_)⟩
    rw [UInt8.toNat_ofNat']
    omega
  split
  · refine ⟨_, .longer (leadByte_two ?_ ?_) (.last ?_ (by simp))⟩
    all_goals simp only [UInt8.le_iff_toNat_le, UInt8.toNat_ofNat', UInt8.reduceToNat]
    all_goals omega
  split
  · refine ⟨_, .longer (leadByte_three ?_ ?_)
      (.next ⟨narrowed_low_le.mpr ?_, le_narrowed_high.mpr ?_⟩ rfl (.last ?_ (by simp)))⟩
    all_goals simp only [UInt8.le_iff_toNat_le, UInt8.toNat_ofNat', UInt8.reduceToNat]
    all_goals omega
  · refine ⟨_, .longer (leadByte_four ?_ ?_)
      (.next ⟨narrowed_low_le.mpr ?_, le_narrowed_high.mpr ?_⟩ rfl (.next ?_ rfl (.last ?_ (by simp))))⟩
    all_goals simp only [UInt8.le_iff_toNat_le, UInt8.toNat_ofNat', UInt8.reduceToNat]
    all_goals omega

/-- What the decoder takes for the bytes of a character is its UTF-8 form. -/
theorem isForm_iff {form : List UInt8} : IsForm form c ↔ String.utf8EncodeChar c = form := by
  constructor
  · exact IsForm.utf8EncodeChar
  · rintro rfl
    obtain ⟨c', hform⟩ := exists_isForm_utf8EncodeChar c
    -- the form of a character determines the character
    have hsame : String.utf8EncodeChar c' ++ [] = String.utf8EncodeChar c ++ [] := by
      rw [hform.utf8EncodeChar]
    rwa [eq_of_utf8EncodeChar_append hsame] at hform

/-! ## Whole texts -/

theorem pieces_encode (s : List Char) : pieces (encode s) = s.map some := by
  induction s with
  | nil => rfl
  | cons c s ih => rw [encode_cons, (isForm_iff.mpr rfl).pieces_append, ih, List.map_cons]

/-- Bytes that are decoded without a fault are the form of what they are decoded to. -/
theorem encode_of_pieces {s : List Char} {bytes : List UInt8} (h : pieces bytes = s.map some) :
    encode s = bytes := by
  have hsound : none ∉ pieces bytes := by
    rw [h]
    simp
  induction s generalizing bytes with
  | nil =>
    by_contra hne
    obtain ⟨form, c, rest, rfl, hform⟩ := exists_isForm (Ne.symm hne) hsound
    rw [hform.pieces_append] at h
    cases h
  | cons c s ih =>
    have hne : bytes ≠ [] := by
      rintro rfl
      cases h
    obtain ⟨form, c', rest, rfl, hform⟩ := exists_isForm hne hsound
    rw [hform.pieces_append, List.map_cons, List.cons.injEq] at h
    obtain ⟨hc, hrest⟩ := h
    obtain rfl := Option.some.inj hc
    rw [hform.pieces_append, List.mem_cons, not_or] at hsound
    rw [encode_cons, isForm_iff.mp hform, ih hrest hsound.2]

/-- A list of options is a list of values if none of them is empty. -/
theorem mapM_id_eq_some {α : Type} {l : List (Option α)} {values : List α} :
    l.mapM id = some values ↔ l = values.map some := by
  induction l generalizing values with
  | nil => cases values <;> simp
  | cons a l ih =>
    rw [List.mapM_cons]
    cases a with
    | none => cases values <;> simp
    | some a =>
      cases values with
      | nil => cases l.mapM id <;> simp
      | cons v values => cases hl : l.mapM id <;> simp [hl, ← ih]

/-- **The decoder accepts the UTF-8 form of a text, as that text, and nothing else.** -/
theorem decode?_eq_some_iff {bytes : List UInt8} {s : List Char} :
    decode? bytes = some s ↔ encode s = bytes := by
  rw [decode?, mapM_id_eq_some]
  constructor
  · exact encode_of_pieces
  · rintro rfl
    exact pieces_encode s

/-- Validity is being the form of a text. -/
theorem isValidUTF8_iff {bytes : List UInt8} :
    bytes.toByteArray.IsValidUTF8 ↔ ∃ s, encode s = bytes := by
  constructor
  · rintro ⟨s, hs⟩
    exact ⟨s, (List.toByteArray_inj.mp hs).symm⟩
  · rintro ⟨s, rfl⟩
    exact ⟨s, rfl⟩

/-- The decoder refuses bytes that are not valid UTF-8, and no others. -/
theorem decode?_eq_none_iff {bytes : List UInt8} :
    decode? bytes = none ↔ ¬ bytes.toByteArray.IsValidUTF8 := by
  rw [Option.eq_none_iff_forall_ne_some, isValidUTF8_iff, not_exists]
  exact forall_congr' fun s => not_congr decode?_eq_some_iff

end LineCensus
