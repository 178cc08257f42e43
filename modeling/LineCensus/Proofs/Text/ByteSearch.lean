import LineCensus.Proofs.Line.Occurrence

/-!
# `Proofs.Text.ByteSearch` — searching bytes finds characters

`find?` compares characters and answers in bytes. A search that compares the bytes of the UTF-8 forms
answers the same: the first byte of a character is never one that continues a character, so the form of
a text stands in the form of another only at the boundary of a character.

## Contents

* `findBytes?` — the offset of the first occurrence of some bytes in others;
* `encode_prefix_iff` — one form starts with another exactly when the texts do;
* `find?_eq_findBytes?` — the main statement.
-/

namespace LineCensus

open Text

/-- The offset of the first occurrence of the bytes `d`. -/
def findBytes? (d : List UInt8) : List UInt8 → Option Nat
  | [] => if d.isEmpty then some 0 else none
  | b :: bytes => if d.isPrefixOf (b :: bytes) then some 0 else (findBytes? d bytes).map (1 + ·)

theorem findBytes?_eq_some_zero {d bytes : List UInt8} (h : d <+: bytes) : findBytes? d bytes = some 0 := by
  cases bytes with
  | nil => simp [findBytes?, List.prefix_nil.mp h]
  | cons b bytes => simp [findBytes?, List.isPrefixOf_iff_prefix.mpr h]

/-- Bytes in which no occurrence starts are passed over. -/
theorem findBytes?_append {d skipped rest : List UInt8}
    (h : ∀ t, t <:+ skipped → t ≠ [] → ¬ d <+: t ++ rest) :
    findBytes? d (skipped ++ rest) = (findBytes? d rest).map (skipped.length + ·) := by
  induction skipped with
  | nil => simp
  | cons b skipped ih =>
    have hhere : ¬ d <+: b :: (skipped ++ rest) := h (b :: skipped) (List.suffix_refl _) (by simp)
    have hlater : ∀ t, t <:+ skipped → t ≠ [] → ¬ d <+: t ++ rest := by
      intro t ht
      exact h t (ht.trans (List.suffix_cons b skipped))
    have hstep : findBytes? d (b :: (skipped ++ rest)) =
        (findBytes? d (skipped ++ rest)).map (1 + ·) := by
      simp [findBytes?, hhere]
    rw [List.cons_append, hstep, ih hlater, Option.map_map]
    congr 1
    funext n
    simp only [Function.comp, List.length_cons]
    omega

/-! ## The form of a character -/

theorem encode_cons {c : Char} {s : List Char} :
    encode (c :: s) = String.utf8EncodeChar c ++ encode s := rfl

theorem utf8EncodeChar_ne_nil (c : Char) : String.utf8EncodeChar c ≠ [] := by
  rw [← List.length_pos_iff, String.length_utf8EncodeChar]
  exact c.utf8Size_pos

theorem encode_eq_nil {s : List Char} : encode s = [] ↔ s = [] := by
  cases s with
  | nil => simp [encode]
  | cons c s => simp [encode_cons]

/-- The character at the start of a form is determined by its bytes. -/
theorem eq_of_utf8EncodeChar_append {c d : Char} {s t : List UInt8}
    (h : String.utf8EncodeChar c ++ s = String.utf8EncodeChar d ++ t) : c = d := by
  have hbytes : (String.utf8EncodeChar c).toByteArray ++ s.toByteArray =
      (String.utf8EncodeChar d).toByteArray ++ t.toByteArray := by
    rw [← List.toByteArray_append, ← List.toByteArray_append, h]
  -- decoding gives the character back, whatever follows its form
  have hdecode := ByteArray.utf8DecodeChar?_utf8EncodeChar_append (b := s.toByteArray) (c := c)
  rw [hbytes, ByteArray.utf8DecodeChar?_utf8EncodeChar_append] at hdecode
  exact (Option.some.inj hdecode).symm

/-- **One form starts with another exactly when the texts do.** -/
theorem encode_prefix_iff {d s : List Char} : encode d <+: encode s ↔ d <+: s := by
  constructor
  · intro h
    induction d generalizing s with
    | nil => exact List.nil_prefix
    | cons c d ih =>
      obtain ⟨rest, hrest⟩ := h
      cases s with
      | nil =>
        have hnil : encode (c :: d) = [] := (List.append_eq_nil_iff.mp hrest).1
        exact absurd (encode_eq_nil.mp hnil) (by simp)
      | cons e s =>
        rw [encode_cons, encode_cons, List.append_assoc] at hrest
        obtain rfl := eq_of_utf8EncodeChar_append hrest
        rw [List.cons_prefix_cons]
        exact ⟨rfl, ih ⟨rest, List.append_cancel_left hrest⟩⟩
  · rintro ⟨rest, rfl⟩
    have happend : encode (d ++ rest) = encode d ++ encode rest := List.flatMap_append
    rw [happend]
    exact List.prefix_append _ _

/-- Inside a character no form starts that is not empty. -/
theorem not_encode_prefix_inside {c e : Char} {d : List Char} {t bytes : List UInt8}
    (ht : t <:+ String.utf8EncodeChar c) (hne : t ≠ []) (hinside : t ≠ String.utf8EncodeChar c) :
    ¬ encode (e :: d) <+: t ++ bytes := by
  rintro ⟨rest, hrest⟩
  obtain ⟨front, hfront⟩ := ht
  obtain ⟨b, t, rfl⟩ := List.exists_cons_of_ne_nil hne
  obtain ⟨b', form, hform⟩ := List.exists_cons_of_ne_nil (utf8EncodeChar_ne_nil e)
  rw [encode_cons, hform] at hrest
  obtain rfl : b' = b := (List.cons.inj hrest).1
  -- the byte starts the character `e`, and continues the character `c`
  have hfirst : b'.IsUTF8FirstByte := by
    have h := UInt8.isUTF8FirstByte_getElem_zero_utf8EncodeChar (c := e)
    simpa [hform] using h
  have hlength : front.length < (String.utf8EncodeChar c).length := by
    rw [← hfront]
    simp
  have hbyte : (String.utf8EncodeChar c)[front.length] = b' := by
    simp [← hfront]
  rw [← hbyte, UInt8.isUTF8FirstByte_getElem_utf8EncodeChar] at hfirst
  have hempty : front = [] := List.length_eq_zero_iff.mp hfirst
  rw [hempty] at hfront
  exact hinside hfront

/-- **Comparing bytes finds what comparing characters finds.** -/
theorem find?_eq_findBytes? (d s : List Char) : find? d s = findBytes? (encode d) (encode s) := by
  cases d with
  | nil =>
    have hnil : encode [] <+: encode s := List.nil_prefix
    rw [find?_eq_some_zero List.nil_prefix, findBytes?_eq_some_zero hnil]
  | cons e d =>
    induction s with
    | nil =>
      have hne : (encode (e :: d)).isEmpty = false := by
        rw [List.isEmpty_eq_false_iff]
        exact mt encode_eq_nil.mp (by simp)
      have hnil : encode [] = [] := rfl
      rw [hnil, findBytes?, hne]
      rfl
    | cons c s ih =>
      by_cases hd : e :: d <+: c :: s
      · rw [find?_eq_some_zero hd, findBytes?_eq_some_zero (encode_prefix_iff.mpr hd)]
      · rw [find?_cons_eq_map hd, ih, encode_cons (c := c), findBytes?_append,
          String.length_utf8EncodeChar]
        -- an occurrence would start at the whole character or inside it
        intro t ht hne
        by_cases hwhole : t = String.utf8EncodeChar c
        · rw [hwhole, ← encode_cons, encode_prefix_iff]
          exact hd
        · exact not_encode_prefix_inside ht hne hwhole

end LineCensus
