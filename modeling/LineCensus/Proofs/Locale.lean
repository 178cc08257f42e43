import LineCensus.Locale
import LineCensus.Proofs.Cutting
import LineCensus.Proofs.Text.Letter

/-!
# `Proofs.Locale` — the locale of an identifier is the locale of its language

An identifier is looked up twice: as it is, without its codeset and in one spelling, and then by its language
alone. The first look-up never decides. Whatever it finds has the language of the identifier, and there is
only one locale of a language (`language_injective`), so the second look-up finds the same one.

What the identifier is taken through on the way to its language comes in an order in which each step could
disturb the next: underscores become hyphens before the text is cut at a hyphen, and letters become small in
between. `languageOf` reads the language off the identifier in place of that, and `firstPart_normalize` says
that it is the same one. All else follows from what `languageOf` does not see.

## Contents

* `beforeSeparator`, `languageOf`, `language` — the language of an identifier, and that of a locale;
* `firstPart_normalize` — cutting what was normalised;
* `ofId?_eq_find?_language`, `ofId?_eq_some_iff` — the two look-ups as one;
* `languageOf_codeset`, `languageOf_region`, `languageOf_trim_region`, `languageOf_lowerAscii` — what does not
  matter;
* `resolve_by_language` — which locale is used.
-/

namespace LineCensus.Locale

open Text

variable {sep sep' : Char} {s : List Char} {l : Locale}

/-! ## The language -/

/-- Whether the language of an identifier goes on with the character. -/
def inLanguage (c : Char) : Bool := c != '-' && c != '_'

/-- The text before the first hyphen or underscore; all of it if there is none. -/
def beforeSeparator (s : List Char) : List Char := s.takeWhile inLanguage

/-- The language of an identifier: the text before the first dot, without the white space around it, and of
that what stands before the first hyphen or underscore, in ASCII lower case. -/
def languageOf (id : List Char) : List Char := lowerAscii (beforeSeparator (trim (firstPart '.' id)))

/-- The language of a locale. -/
def language (l : Locale) : List Char := firstPart '-' l.id.toList

/-- No two locales have the same language. -/
theorem language_injective {l l' : Locale} (h : language l = language l') : l = l' := by
  revert h
  cases l <;> cases l' <;> decide

theorem mem_all (l : Locale) : l ∈ all := by
  cases l <;> decide

/-! ## What was normalised, cut at a hyphen -/

/-- The character with a hyphen in place of an underscore. -/
def hyphenated (c : Char) : Char := if c = '_' then '-' else c

theorem hyphenated_bne (c : Char) : (hyphenated c != '-') = inLanguage c := by
  unfold hyphenated inLanguage
  by_cases hc : c = '_'
  · simp [hc]
  · simp [hc]

/-- No underscore is left in the language. -/
theorem beforeSeparator_map_hyphenated (s : List Char) :
    (beforeSeparator s).map hyphenated = beforeSeparator s := by
  have hstays : (beforeSeparator s).map hyphenated = (beforeSeparator s).map fun c => c := by
    apply List.map_congr_left
    intro c hc
    have hin : inLanguage c = true := List.mem_takeWhile_imp hc
    have hne : c ≠ '_' := by
      rintro rfl
      cases hin
    exact if_neg hne
  rw [hstays, List.map_id']

/-- **The language is what stands before the first hyphen of the normalised identifier.** -/
theorem firstPart_normalize (id : List Char) : firstPart '-' (normalize id) = languageOf id := by
  have htest : (fun c => c != '-') ∘ hyphenated = inLanguage := funext hyphenated_bne
  have hnormal : normalize id = lowerAscii ((trim (firstPart '.' id)).map hyphenated) := rfl
  rw [hnormal, firstPart, takeWhile_lowerAscii (bne_toLower rfl), List.takeWhile_map, htest]
  show lowerAscii ((beforeSeparator (trim (firstPart '.' id))).map hyphenated) = languageOf id
  rw [beforeSeparator_map_hyphenated]
  rfl

/-! ## Two look-ups as one -/

/-- A locale is found by its language, and by no other. -/
theorem find?_language_eq_some_iff : all.find? (fun l => language l == s) = some l ↔ language l = s := by
  constructor
  · intro hfind
    simpa using List.find?_some hfind
  · rintro rfl
    cases hfind : all.find? fun l' => language l' == language l with
    | none =>
      have hother := List.find?_eq_none.mp hfind l (mem_all l)
      exact absurd (beq_self_eq_true (language l)) hother
    | some l' =>
      have hsame : language l' = language l := by simpa using List.find?_some hfind
      rw [language_injective hsame]

/-- **Looking for the whole identifier first changes nothing.** -/
theorem ofId?_eq_find?_language (id : List Char) :
    ofId? id = all.find? fun l => language l == languageOf id := by
  have hsecond : (all.find? fun l => firstPart '-' l.id.toList == firstPart '-' (normalize id)) =
      all.find? fun l => language l == languageOf id := by
    rw [firstPart_normalize]
    rfl
  unfold ofId?
  simp only [hsecond]
  cases hwhole : all.find? fun l => l.id.toList == normalize id with
  | none => rfl
  | some l =>
    -- the identifier of a locale has the language of that locale
    have hid : l.id.toList = normalize id := by simpa using List.find?_some hwhole
    have hlanguage : language l = languageOf id := by
      rw [← firstPart_normalize, ← hid]
      rfl
    rw [find?_language_eq_some_iff.mpr hlanguage]
    rfl

theorem ofId?_eq_some_iff {id : List Char} : ofId? id = some l ↔ language l = languageOf id := by
  rw [ofId?_eq_find?_language, find?_language_eq_some_iff]

/-- Identifiers of one language have one locale. -/
theorem ofId?_congr {id id' : List Char} (h : languageOf id = languageOf id') : ofId? id = ofId? id' := by
  rw [ofId?_eq_find?_language, ofId?_eq_find?_language, h]

/-! ## What the language does not depend on -/

/-- The codeset, which a dot begins. -/
theorem languageOf_codeset (id codeset : List Char) : languageOf (id ++ '.' :: codeset) = languageOf id := by
  unfold languageOf firstPart
  rw [takeWhile_append_cons (by simp)]

/-- White space around the identifier. -/
theorem languageOf_trim (id : List Char) : languageOf (trim id) = languageOf id := by
  by_cases hdot : '.' ∈ id
  · -- the dot is no white space, and what trimming takes before it would be trimmed away later
    obtain ⟨front, back, rfl, hfront⟩ := List.eq_append_cons_of_mem hdot
    have hstart : '.' ∉ trimStart front := by
      intro hmem
      exact hfront ((List.dropWhile_suffix _).subset hmem)
    rw [trim_append_cons (by decide), languageOf_codeset, languageOf_codeset]
    unfold languageOf firstPart
    rw [takeWhile_bne_of_not_mem hstart, takeWhile_bne_of_not_mem hfront, trim_trimStart]
  · have htrim : '.' ∉ trim id := fun hmem => hdot (mem_of_mem_trim hmem)
    unfold languageOf firstPart
    rw [takeWhile_bne_of_not_mem htrim, takeWhile_bne_of_not_mem hdot, trim_trim]

/-- What stands behind a dot. -/
theorem languageOf_append_of_dot (hdot : '.' ∈ s) (t : List Char) : languageOf (s ++ t) = languageOf s := by
  obtain ⟨front, back, rfl⟩ := List.append_of_mem hdot
  rw [List.append_assoc, List.cons_append, languageOf_codeset, languageOf_codeset]

/-- Before a separator a text is trimmed on the left only, since no separator is white space. -/
theorem languageOf_append_separator (hsep : inLanguage sep = false) (hdot : '.' ∉ s) (region : List Char) :
    languageOf (s ++ sep :: region) = lowerAscii (beforeSeparator (trimStart s)) := by
  have hcases : sep = '-' ∨ sep = '_' := by
    unfold inLanguage at hsep
    by_cases hhyphen : sep = '-'
    · exact Or.inl hhyphen
    · exact Or.inr (by simpa [hhyphen] using hsep)
  have hblank : isBlank sep = false := by rcases hcases with rfl | rfl <;> decide
  have hsepDot : (sep != '.') = true := by rcases hcases with rfl | rfl <;> decide
  have hpart : firstPart '.' (s ++ sep :: region) = s ++ sep :: firstPart '.' region := by
    unfold firstPart
    rw [List.takeWhile_append_of_pos (forall_bne_of_not_mem hdot), List.takeWhile_cons, if_pos hsepDot]
  unfold languageOf
  rw [hpart, trim_append_cons hblank, beforeSeparator, takeWhile_append_cons hsep]
  rfl

/-- The region, which a separator begins, and which of the separators that is. -/
theorem languageOf_region (hsep : inLanguage sep = false) (hsep' : inLanguage sep' = false)
    (s region region' : List Char) : languageOf (s ++ sep :: region) = languageOf (s ++ sep' :: region') := by
  by_cases hdot : '.' ∈ s
  · rw [languageOf_append_of_dot hdot, languageOf_append_of_dot hdot]
  · rw [languageOf_append_separator hsep hdot, languageOf_append_separator hsep' hdot]

/-- Whether there is a region. -/
theorem languageOf_trim_region (hsep : inLanguage sep = false) (id region : List Char) :
    languageOf (trim id ++ sep :: region) = languageOf id := by
  by_cases hdot : '.' ∈ trim id
  · rw [languageOf_append_of_dot hdot, languageOf_trim]
  · rw [languageOf_append_separator hsep hdot, trimStart_trim, ← languageOf_trim id]
    unfold languageOf firstPart
    rw [takeWhile_bne_of_not_mem hdot, trim_trim]

/-- The case of ASCII letters. -/
theorem languageOf_lowerAscii (id : List Char) : languageOf (lowerAscii id) = languageOf id := by
  have hcase : ∀ c : Char, inLanguage c.toLower = inLanguage c := by
    intro c
    unfold inLanguage
    rw [bne_toLower rfl, bne_toLower rfl]
  unfold languageOf firstPart beforeSeparator
  rw [takeWhile_lowerAscii (bne_toLower rfl), trim_lowerAscii, takeWhile_lowerAscii hcase, lowerAscii_lowerAscii]

/-! ## The locale -/

/-- The locale used for an identifier: English if it has none. -/
theorem ofId?_getD (id : List Char) :
    (ofId? id).getD .en = if languageOf id = ['z', 'h'] then .zhCn else .en := by
  cases hfound : ofId? id with
  | none =>
    rw [if_neg]
    · rfl
    · intro hlanguage
      rw [ofId?_eq_some_iff.mpr (show language .zhCn = languageOf id from hlanguage.symm)] at hfound
      cases hfound
  | some l =>
    rw [← ofId?_eq_some_iff.mp hfound]
    cases l <;> rfl

/-- **The language of an identifier decides on the locale.** It is the Chinese one for `zh`, the English one
for `en` and none for all others. So looking for the whole identifier first changes nothing, and neither do
the case of letters, the codeset, the region or the separator before it. A requested locale is decided by its
own language, whatever the environment says, and without one the environment decides; a language without
labels, and no identifier at all, are English. -/
theorem resolve_by_language (id : List Char) :
    (ofId? id = some .zhCn ↔ languageOf id = ['z', 'h']) ∧
    (ofId? id = some .en ↔ languageOf id = ['e', 'n']) ∧
    (ofId? id = none ↔ languageOf id ≠ ['z', 'h'] ∧ languageOf id ≠ ['e', 'n']) ∧
    (ofId? id = all.find? fun l => firstPart '-' l.id.toList == firstPart '-' (normalize id)) ∧
    ofId? (lowerAscii id) = ofId? id ∧
    (∀ codeset, ofId? (id ++ '.' :: codeset) = ofId? id) ∧
    (∀ region, ofId? (trim id ++ '-' :: region) = ofId? id ∧ ofId? (trim id ++ '_' :: region) = ofId? id) ∧
    (∀ region region', ofId? (id ++ '-' :: region) = ofId? (id ++ '_' :: region')) ∧
    (∀ environment, resolve (some id) environment = if languageOf id = ['z', 'h'] then .zhCn else .en) ∧
    (resolve none (some id) = if languageOf id = ['z', 'h'] then .zhCn else .en) ∧
    resolve none none = .en := by
  have hfound (l : Locale) : ofId? id = some l ↔ languageOf id = language l := by
    rw [ofId?_eq_some_iff, eq_comm]
  refine ⟨hfound .zhCn, hfound .en, ?_, ?_, ?_, ?_, ?_, ?_, ?_, ?_, rfl⟩
  · rw [Option.eq_none_iff_forall_ne_some]
    constructor
    · intro hnone
      exact ⟨fun hzh => hnone .zhCn ((hfound .zhCn).mpr hzh), fun hen => hnone .en ((hfound .en).mpr hen)⟩
    · rintro ⟨hzh, hen⟩ l hl
      have hlanguage := (hfound l).mp hl
      cases l with
      | en => exact hen hlanguage
      | zhCn => exact hzh hlanguage
  · rw [firstPart_normalize]
    exact ofId?_eq_find?_language id
  · exact ofId?_congr (languageOf_lowerAscii id)
  · intro codeset
    exact ofId?_congr (languageOf_codeset id codeset)
  · intro region
    constructor
    · exact ofId?_congr (languageOf_trim_region rfl id region)
    · exact ofId?_congr (languageOf_trim_region rfl id region)
  · intro region region'
    exact ofId?_congr (languageOf_region rfl rfl id region region')
  · intro environment
    exact ofId?_getD id
  · exact ofId?_getD id

example : ofId? "\tZH_Hant-TW .UTF-8".toList = some .zhCn ∧ ofId? "en -US".toList = none := by decide

end LineCensus.Locale
