import LineCensus.Proofs.Json.Number
import Mathlib.Data.List.TakeWhile

/-!
# `Proofs.Json.RoundTrip` — what is written is read back

A value can be written in more than one layout: on one line, or with one member or element a line. What the
layouts have in common is a grammar (`Json.Spells`), in which white space may stand wherever the parts of a
value meet. The reader finds a value in each text that spells it. The layout of `Json.pretty` spells every
value that can be told from its text at all (`Json.Proper`): its strings and names have a text, and its
numbers are numbers.

Each part of a text is read as that part whatever follows it, so the whole is put together from the parts, by
induction on the grammar. Only a number needs to know what comes next, and what comes next is white space, a
comma, a closing bracket or the end. An escaped character is the delicate part of a string: its code unit is
below those of which two make a character, so the reader, which looks at the next unit too, leaves that one
alone.

The steps of the reader are bounded by its fuel. One unit for each character is enough.

## Contents

* `Json.readString?_escapeChar`, `Json.readString?_flatMap_escapeChar` — characters and strings;
* `Json.Part`, `Json.Spells` — the texts of a value in any layout; `Json.Part.Reads` — a part in its text;
* `Json.Spells.reads`, `Json.parse?_of_spells` — a value is read back from every text of it;
* `Json.Proper` — the values that can be read back; `Json.Proper.spells`, `Json.parse?_pretty` — one member
  or element a line.
-/

namespace LineCensus.Json

/-! ## Strings -/

section Strings

variable {c a b x y : Char} {t : List Char} {n : Nat}

/-- Control characters have two digits that are not zero at most. -/
theorem hex4_of_lt : ∀ n < 0x20, hex4 n = ['0', '0', Nat.digitChar (n / 16), Nat.digitChar (n % 16)] := by
  decide

theorem hex4?_of_lt : ∀ n < 0x20, hex4? '0' '0' (Nat.digitChar (n / 16)) (Nat.digitChar (n % 16)) = some n := by
  decide

theorem unitChar?_toNat (c : Char) : unitChar? c.toNat = some c := by
  have hvalid : c.toNat < 0xD800 ∨ 0xDFFF < c.toNat ∧ c.toNat < 0x110000 := c.valid
  rw [unitChar?, if_neg (by omega), Char.ofNat_toNat]

theorem pairChar?_of_lt {high low : Nat} (h : high < 0xD800) : pairChar? high low = none := by
  rw [pairChar?, if_neg (by omega)]

/-- Four characters that are no code unit end the reading. -/
theorem readString?_of_hex4?_none (h : hex4? a b x y = none) :
    readString? ('\\' :: 'u' :: a :: b :: x :: y :: t) = none := by
  rw [readString?.eq_def]
  split
  · next heq => cases heq
  · next heq => cases heq
  · next heq =>
    simp only [List.cons.injEq, true_and] at heq
    obtain ⟨rfl, rfl, rfl, rfl, -⟩ := heq
    rw [h]
  · next heq =>
    simp only [List.cons.injEq, true_and] at heq
    obtain ⟨rfl, rfl, rfl, rfl, -⟩ := heq
    rw [h]
  · next hunit heq =>
    simp only [List.cons.injEq, true_and] at heq
    obtain ⟨rfl, rfl⟩ := heq
    exact absurd rfl (hunit _ _ _ _ _ rfl)
  · next hescape heq =>
    obtain ⟨rfl, rfl⟩ := List.cons.inj heq
    exact absurd rfl (hescape _ _ rfl)

/-- A code unit that is no half of a pair is a character of its own, whatever follows it. -/
theorem readString?_unit (h : hex4? a b x y = some n) (hn : n < 0xD800) :
    readString? ('\\' :: 'u' :: a :: b :: x :: y :: t) =
      (readString? t).map fun r => (consText (unitChar? n) r.1, r.2) := by
  rw [readString?.eq_def]
  split
  · next heq => cases heq
  · next heq => cases heq
  · next e f g k s heq =>
    -- another unit follows, which is looked at here and read again with the rest
    simp only [List.cons.injEq, true_and] at heq
    obtain ⟨rfl, rfl, rfl, rfl, rfl⟩ := heq
    rw [h]
    cases hnext : hex4? e f g k with
    | none => simp [readString?_of_hex4?_none hnext]
    | some low => simp [pairChar?_of_lt hn]
  · next heq =>
    simp only [List.cons.injEq, true_and] at heq
    obtain ⟨rfl, rfl, rfl, rfl, rfl⟩ := heq
    rw [h]
  · next hunit heq =>
    simp only [List.cons.injEq, true_and] at heq
    obtain ⟨rfl, rfl⟩ := heq
    exact absurd rfl (hunit _ _ _ _ _ rfl)
  · next hescape heq =>
    obtain ⟨rfl, rfl⟩ := List.cons.inj heq
    exact absurd rfl (hescape _ _ rfl)

theorem readString?_plain (hquote : c ≠ '"') (hescape : c ≠ '\\') (hcontrol : ¬ c.toNat < 0x20) :
    readString? (c :: t) = (readString? t).map fun r => (consText (some c) r.1, r.2) := by
  rw [readString?.eq_def]
  split
  · next heq => cases heq
  · next heq => exact absurd (List.cons.inj heq).1 hquote
  · next heq => exact absurd (List.cons.inj heq).1 hescape
  · next heq => exact absurd (List.cons.inj heq).1 hescape
  · next heq => exact absurd (List.cons.inj heq).1 hescape
  · next heq =>
    obtain ⟨rfl, rfl⟩ := List.cons.inj heq
    rw [if_neg (by simp [hescape, hcontrol])]

/-- **A character is read back**, whatever follows it. -/
theorem readString?_escapeChar (c : Char) (t : List Char) :
    readString? (escapeChar c ++ t) = (readString? t).map fun r => (consText (some c) r.1, r.2) := by
  by_cases hletter : c ∈ ['"', '\\', '\x08', '\x0c', '\n', '\r', '\t']
  · -- a backslash and a letter
    simp only [List.mem_cons, List.not_mem_nil, or_false] at hletter
    rcases hletter with rfl | rfl | rfl | rfl | rfl | rfl | rfl <;>
      simp [escapeChar, readString?, simpleEscape?]
  · have hescape : escapeChar c = if c.toNat < 0x20 then '\\' :: 'u' :: hex4 c.toNat else [c] := by
      simp only [List.mem_cons, List.not_mem_nil, or_false, not_or] at hletter
      obtain ⟨hquote, hbackslash, h8, hc, hn, hr, ht⟩ := hletter
      simp only [escapeChar, if_neg hquote, if_neg hbackslash, if_neg h8, if_neg hc, if_neg hn, if_neg hr,
        if_neg ht]
    rw [hescape]
    by_cases hcontrol : c.toNat < 0x20
    · rw [if_pos hcontrol, hex4_of_lt _ hcontrol, ← unitChar?_toNat c]
      exact readString?_unit (hex4?_of_lt _ hcontrol) (by omega)
    · rw [if_neg hcontrol]
      refine readString?_plain ?_ ?_ hcontrol
      · rintro rfl
        exact hletter (by decide)
      · rintro rfl
        exact hletter (by decide)

/-- **A string is read back**, up to its closing quote. -/
theorem readString?_flatMap_escapeChar (s rest : List Char) :
    readString? (s.flatMap escapeChar ++ '"' :: rest) = some (some s, rest) := by
  induction s with
  | nil => simp [readString?]
  | cons c s ih =>
    rw [List.flatMap_cons, List.append_assoc, readString?_escapeChar, ih]
    rfl

end Strings

/-! ## White space -/

section Space

variable {s t : List Char} {fuel : Nat}

/-- White space and nothing else. -/
def IsBlank (s : List Char) : Prop := ∀ c ∈ s, isSpace c = true

theorem isBlank_newline (level : Nat) : IsBlank (newline level) := by
  intro c hc
  rw [newline, List.mem_cons] at hc
  rcases hc with rfl | hc
  · rfl
  · rw [List.eq_of_mem_replicate hc]
    rfl

theorem skipSpace_append {space : List Char} (h : IsBlank space) (s : List Char) :
    skipSpace (space ++ s) = skipSpace s :=
  List.dropWhile_append_of_pos h

theorem skipSpace_skipSpace (s : List Char) : skipSpace (skipSpace s) = skipSpace s := by
  have hblank : IsBlank (s.takeWhile isSpace) := fun c hc => List.mem_takeWhile_imp hc
  have hskip := skipSpace_append hblank (skipSpace s)
  have hwhole : s.takeWhile isSpace ++ skipSpace s = s := List.takeWhile_append_dropWhile
  rw [hwhole] at hskip
  exact hskip.symm

theorem skipSpace_of_head {c : Char} (h : isSpace c = false) (s : List Char) : skipSpace (c :: s) = c :: s := by
  simp [skipSpace, h]

/-- White space before a value makes no difference. -/
theorem readValue?_congr (h : skipSpace s = skipSpace t) : readValue? fuel s = readValue? fuel t := by
  cases fuel with
  | zero => simp [readValue?]
  | succ fuel => rw [readValue?, h, readValue?]

theorem readElements?_congr (h : skipSpace s = skipSpace t) : readElements? fuel s = readElements? fuel t := by
  cases fuel with
  | zero => simp [readElements?]
  | succ fuel => rw [readElements?, readValue?_congr h, readElements?]

theorem readMembers?_congr (h : skipSpace s = skipSpace t) : readMembers? fuel s = readMembers? fuel t := by
  cases fuel with
  | zero => simp [readMembers?]
  | succ fuel => rw [readMembers?, h, readMembers?]

end Space

/-! ## The texts of a value -/

/-- The name of a member, if it has a text, and its value. -/
abbrev Member : Type := Option (List Char) × Json

/-- A part of a text: a value, a member of an object, or what stands in brackets or braces, of which there is
one at least. -/
inductive Part where
  | value (v : Json)
  | elements (vs : List Json)
  | member (m : Member)
  | members (ms : List Member)

/-- The texts of a part. White space may stand around each value, name, comma and colon. The elements of an
array and the members of an object have the closing bracket with them. -/
inductive Spells : Part → List Char → Prop where
  | null : Spells (.value .null) ['n', 'u', 'l', 'l']
  | true : Spells (.value (.bool true)) ['t', 'r', 'u', 'e']
  | false : Spells (.value (.bool false)) ['f', 'a', 'l', 's', 'e']
  | number {text : List Char} (h : IsNumber text) : Spells (.value (.number text)) text
  | string (text : List Char) : Spells (.value (.string (some text))) (writeString text)
  | emptyArray {space : List Char} (hspace : IsBlank space) : Spells (.value (.array [])) ('[' :: (space ++ [']']))
  | array {vs : List Json} {space s : List Char} (hspace : IsBlank space) (hs : Spells (.elements vs) s) :
      Spells (.value (.array vs)) ('[' :: (space ++ s))
  | emptyObject {space : List Char} (hspace : IsBlank space) :
      Spells (.value (.object [])) ('\x7b' :: (space ++ ['\x7d']))
  | object {ms : List Member} {space s : List Char} (hspace : IsBlank space) (hs : Spells (.members ms) s) :
      Spells (.value (.object ms)) ('\x7b' :: (space ++ s))
  | lastElement {v : Json} {s space : List Char} (hs : Spells (.value v) s) (hspace : IsBlank space) :
      Spells (.elements [v]) (s ++ (space ++ [']']))
  | element {v : Json} {vs : List Json} {s space space' t : List Char} (hs : Spells (.value v) s)
      (hspace : IsBlank space) (hspace' : IsBlank space') (ht : Spells (.elements vs) t) :
      Spells (.elements (v :: vs)) (s ++ (space ++ ',' :: (space' ++ t)))
  | member {v : Json} {space space' s : List Char} (name : List Char) (hspace : IsBlank space)
      (hspace' : IsBlank space') (hs : Spells (.value v) s) :
      Spells (.member (some name, v)) (writeString name ++ (space ++ ':' :: (space' ++ s)))
  | lastMember {m : Member} {s space : List Char} (hs : Spells (.member m) s) (hspace : IsBlank space) :
      Spells (.members [m]) (s ++ (space ++ ['\x7d']))
  | members {m : Member} {ms : List Member} {s space space' t : List Char} (hs : Spells (.member m) s)
      (hspace : IsBlank space) (hspace' : IsBlank space') (ht : Spells (.members ms) t) :
      Spells (.members (m :: ms)) (s ++ (space ++ ',' :: (space' ++ t)))

/-- A text is read as a part of it, with fuel for each character and whatever follows that is not more of a
number. What follows a member decides whether it is the last one. -/
def Part.Reads : Part → List Char → Prop
  | .value v, s => ∀ fuel rest, EndsNumber rest → s.length ≤ fuel →
      readValue? (fuel + 1) (s ++ rest) = some (v, rest)
  | .elements vs, s => ∀ fuel rest, s.length ≤ fuel → readElements? (fuel + 1) (s ++ rest) = some (vs, rest)
  | .member m, s => ∀ fuel rest t, EndsNumber rest → s.length ≤ fuel →
      (skipSpace rest = '\x7d' :: t → readMembers? (fuel + 1) (s ++ rest) = some ([m], t)) ∧
      (skipSpace rest = ',' :: t →
        readMembers? (fuel + 1) (s ++ rest) = (readMembers? fuel t).map fun r => (m :: r.1, r.2))
  | .members ms, s => ∀ fuel rest, s.length ≤ fuel → readMembers? (fuel + 1) (s ++ rest) = some (ms, rest)

section Parts

variable {v : Json} {vs : List Json} {m : Member} {ms : List Member} {text space space' s t rest : List Char}
  {c : Char} {fuel : Nat}

/-! ### What comes next -/

/-- A number ends before a comma and before a closing bracket. -/
theorem endsNumber_cons (hc : c ∈ [',', ']', '\x7d']) : EndsNumber (c :: rest) := by
  intro d hd
  obtain rfl : c = d := Option.some.inj hd
  simp only [List.mem_cons, List.not_mem_nil, or_false] at hc
  rcases hc with rfl | rfl | rfl <;> decide

/-- White space ends a number, too. -/
theorem EndsNumber.append (hrest : EndsNumber rest) (hspace : IsBlank space) : EndsNumber (space ++ rest) := by
  intro d hd
  cases space with
  | nil => exact hrest d hd
  | cons b space =>
    obtain rfl : b = d := Option.some.inj hd
    have hblank : isSpace b = true := hspace b List.mem_cons_self
    simp only [isSpace, Bool.or_eq_true, beq_iff_eq] at hblank
    rcases hblank with ((rfl | rfl) | rfl) | rfl <;> decide

theorem skipSpace_append_cons (hspace : IsBlank space) (hc : isSpace c = false) :
    skipSpace (space ++ c :: rest) = c :: rest := by
  rw [skipSpace_append hspace, skipSpace_of_head hc]

/-- What is read as elements does not begin with a closing bracket. -/
theorem readElements?_bracket (fuel : Nat) (h : skipSpace s = ']' :: t) : readElements? fuel s = none := by
  have hnumber : readNumber? (']' :: t) = none := by simp [readNumber?, readWhole?, readDigits?]
  rw [readElements?_congr (t := ']' :: t) (by rw [h, skipSpace_of_head (by decide)])]
  cases fuel with
  | zero => rfl
  | succ fuel =>
    have hvalue : readValue? fuel (']' :: t) = none := by
      cases fuel with
      | zero => rfl
      | succ fuel =>
        rw [readValue?, skipSpace_of_head (by decide)]
        simp [hnumber]
    rw [readElements?, hvalue]

/-! ### Values of each kind -/

theorem exists_of_isNumber (h : IsNumber text) : ∃ c s, text = c :: s ∧ (c = '-' ∨ c.isDigit = true) := by
  obtain ⟨sign, whole, fraction, exponent, rfl, hsign, ⟨⟨hne, hdigits⟩, -⟩, -, -⟩ := h
  rcases hsign with rfl | rfl
  · obtain ⟨c, whole, rfl⟩ := List.exists_cons_of_ne_nil hne
    exact ⟨c, _, rfl, .inr (hdigits c List.mem_cons_self)⟩
  · exact ⟨'-', _, rfl, .inl rfl⟩

theorem reads_number (h : IsNumber text) : (Part.value (.number text)).Reads text := by
  intro fuel rest hrest _
  obtain ⟨c, s, rfl, hc⟩ := exists_of_isNumber h
  have hread := readNumber?_append h hrest
  -- what a number begins with tells it from white space and from other values
  have hother : c ∉ [' ', '\t', '\n', '\r', 'n', 't', 'f', '"', '[', '\x7b'] := by
    intro hmem
    simp only [List.mem_cons, List.not_mem_nil, or_false] at hmem
    rcases hmem with rfl | rfl | rfl | rfl | rfl | rfl | rfl | rfl | rfl | rfl <;> exact absurd hc (by decide)
  simp only [List.mem_cons, List.not_mem_nil, or_false, not_or] at hother
  have hspace : isSpace c = false := by simp [isSpace, hother]
  rw [List.cons_append] at hread
  rw [List.cons_append, readValue?.eq_def]
  simp only [skipSpace_of_head hspace]
  split
  · next heq => simp [hother] at heq
  · next heq => simp [hother] at heq
  · next heq => simp [hother] at heq
  · next heq => simp [hother] at heq
  · next heq => simp [hother] at heq
  · next heq => simp [hother] at heq
  · rw [hread, Option.map_some]

theorem reads_string (text : List Char) : (Part.value (.string (some text))).Reads (writeString text) := by
  intro fuel rest _ _
  have htext : writeString text ++ rest = '"' :: (text.flatMap escapeChar ++ '"' :: rest) := by
    simp [writeString]
  rw [htext, readValue?, skipSpace_of_head (by decide)]
  simp [readString?_flatMap_escapeChar]

theorem reads_emptyArray (hspace : IsBlank space) :
    (Part.value (.array [])).Reads ('[' :: (space ++ [']'])) := by
  intro fuel rest _ _
  rw [List.cons_append, List.append_assoc, List.singleton_append, readValue?, skipSpace_of_head (by decide)]
  simp only [skipSpace_append_cons hspace (show isSpace ']' = false by decide)]

theorem reads_emptyObject (hspace : IsBlank space) :
    (Part.value (.object [])).Reads ('\x7b' :: (space ++ ['\x7d'])) := by
  intro fuel rest _ _
  rw [List.cons_append, List.append_assoc, List.singleton_append, readValue?, skipSpace_of_head (by decide)]
  simp only [skipSpace_append_cons hspace (show isSpace '\x7d' = false by decide)]

theorem reads_array (hspace : IsBlank space) (hs : (Part.elements vs).Reads s) :
    (Part.value (.array vs)).Reads ('[' :: (space ++ s)) := by
  intro fuel rest _ hfuel
  rw [List.length_cons, List.length_append] at hfuel
  obtain ⟨fuel, rfl⟩ : ∃ n, fuel = n + 1 := Nat.exists_eq_succ_of_ne_zero (by omega)
  have hread : readElements? (fuel + 1) (space ++ (s ++ rest)) = some (vs, rest) := by
    rw [readElements?_congr (skipSpace_append hspace (s ++ rest))]
    exact hs fuel rest (by omega)
  rw [List.cons_append, List.append_assoc, readValue?, skipSpace_of_head (by decide)]
  simp only
  split
  · next hclose => simp [readElements?_bracket (fuel + 1) hclose] at hread
  · rw [readElements?_congr (skipSpace_skipSpace _), hread, Option.map_some]

theorem reads_object (hspace : IsBlank space) (hs : (Part.members ms).Reads s) :
    (Part.value (.object ms)).Reads ('\x7b' :: (space ++ s)) := by
  intro fuel rest _ hfuel
  rw [List.length_cons, List.length_append] at hfuel
  obtain ⟨fuel, rfl⟩ : ∃ n, fuel = n + 1 := Nat.exists_eq_succ_of_ne_zero (by omega)
  have hread : readMembers? (fuel + 1) (space ++ (s ++ rest)) = some (ms, rest) := by
    rw [readMembers?_congr (skipSpace_append hspace (s ++ rest))]
    exact hs fuel rest (by omega)
  rw [List.cons_append, List.append_assoc, readValue?, skipSpace_of_head (by decide)]
  simp only
  split
  · next hclose => simp [readMembers?, hclose] at hread
  · rw [readMembers?_congr (skipSpace_skipSpace _), hread, Option.map_some]

/-! ### Elements and members -/

theorem reads_lastElement (hs : (Part.value v).Reads s) (hspace : IsBlank space) :
    (Part.elements [v]).Reads (s ++ (space ++ [']'])) := by
  intro fuel rest hfuel
  simp only [List.length_append, List.length_singleton] at hfuel
  obtain ⟨fuel, rfl⟩ : ∃ n, fuel = n + 1 := Nat.exists_eq_succ_of_ne_zero (by omega)
  have hv := hs fuel (space ++ ']' :: rest) ((endsNumber_cons (by simp)).append hspace) (by omega)
  rw [List.append_assoc, List.append_assoc, List.singleton_append, readElements?, hv]
  simp only [skipSpace_append_cons hspace (show isSpace ']' = false by decide)]

theorem reads_element (hs : (Part.value v).Reads s) (hspace : IsBlank space) (hspace' : IsBlank space')
    (ht : (Part.elements vs).Reads t) :
    (Part.elements (v :: vs)).Reads (s ++ (space ++ ',' :: (space' ++ t))) := by
  intro fuel rest hfuel
  simp only [List.length_append, List.length_cons] at hfuel
  obtain ⟨fuel, rfl⟩ : ∃ n, fuel = n + 1 := Nat.exists_eq_succ_of_ne_zero (by omega)
  have hv := hs fuel (space ++ ',' :: (space' ++ (t ++ rest))) ((endsNumber_cons (by simp)).append hspace) (by omega)
  have hvs : readElements? (fuel + 1) (space' ++ (t ++ rest)) = some (vs, rest) := by
    rw [readElements?_congr (skipSpace_append hspace' (t ++ rest))]
    exact ht fuel rest (by omega)
  simp only [List.append_assoc, List.cons_append]
  rw [readElements?, hv]
  simp only [skipSpace_append_cons hspace (show isSpace ',' = false by decide), hvs, Option.map_some]

theorem reads_member (name : List Char) (hspace : IsBlank space) (hspace' : IsBlank space')
    (hs : (Part.value v).Reads s) :
    (Part.member (some name, v)).Reads (writeString name ++ (space ++ ':' :: (space' ++ s))) := by
  intro fuel rest t hrest hfuel
  simp only [List.length_append, List.length_cons] at hfuel
  obtain ⟨fuel, rfl⟩ : ∃ n, fuel = n + 1 := Nat.exists_eq_succ_of_ne_zero (by omega)
  have htext : writeString name ++ (space ++ ':' :: (space' ++ s)) ++ rest =
      '"' :: (name.flatMap escapeChar ++ '"' :: (space ++ ':' :: (space' ++ (s ++ rest)))) := by
    simp [writeString]
  have hvalue : readValue? (fuel + 1) (space' ++ (s ++ rest)) = some (v, rest) := by
    rw [readValue?_congr (skipSpace_append hspace' (s ++ rest))]
    exact hs fuel rest hrest (by omega)
  rw [htext, readMembers?, skipSpace_of_head (by decide)]
  simp only [readString?_flatMap_escapeChar,
    skipSpace_append_cons hspace (show isSpace ':' = false by decide), hvalue]
  constructor
  · intro hclose
    simp only [hclose]
  · intro hcomma
    simp only [hcomma]

theorem reads_lastMember (hs : (Part.member m).Reads s) (hspace : IsBlank space) :
    (Part.members [m]).Reads (s ++ (space ++ ['\x7d'])) := by
  intro fuel rest hfuel
  rw [List.length_append] at hfuel
  rw [List.append_assoc, List.append_assoc, List.singleton_append]
  exact (hs fuel (space ++ '\x7d' :: rest) rest ((endsNumber_cons (by simp)).append hspace) (by omega)).1
    (skipSpace_append_cons hspace (by decide))

theorem reads_members (hs : (Part.member m).Reads s) (hspace : IsBlank space) (hspace' : IsBlank space')
    (ht : (Part.members ms).Reads t) :
    (Part.members (m :: ms)).Reads (s ++ (space ++ ',' :: (space' ++ t))) := by
  intro fuel rest hfuel
  simp only [List.length_append, List.length_cons] at hfuel
  obtain ⟨fuel, rfl⟩ : ∃ n, fuel = n + 1 := Nat.exists_eq_succ_of_ne_zero (by omega)
  have hms : readMembers? (fuel + 1) (space' ++ (t ++ rest)) = some (ms, rest) := by
    rw [readMembers?_congr (skipSpace_append hspace' (t ++ rest))]
    exact ht fuel rest (by omega)
  have hm := (hs (fuel + 1) (space ++ ',' :: (space' ++ (t ++ rest))) (space' ++ (t ++ rest))
    ((endsNumber_cons (by simp)).append hspace) (by omega)).2 (skipSpace_append_cons hspace (by decide))
  simp only [List.append_assoc, List.cons_append]
  rw [hm, hms, Option.map_some]

end Parts

/-- **Each part is read back from each of its texts**, by induction on the grammar. -/
theorem Spells.reads {p : Part} {s : List Char} (h : Spells p s) : p.Reads s := by
  induction h with
  | null =>
    intro fuel rest _ _
    simp [readValue?, skipSpace, isSpace]
  | true =>
    intro fuel rest _ _
    simp [readValue?, skipSpace, isSpace]
  | false =>
    intro fuel rest _ _
    simp [readValue?, skipSpace, isSpace]
  | number h => exact reads_number h
  | string text => exact reads_string text
  | emptyArray hspace => exact reads_emptyArray hspace
  | array hspace _ ih => exact reads_array hspace ih
  | emptyObject hspace => exact reads_emptyObject hspace
  | object hspace _ ih => exact reads_object hspace ih
  | lastElement _ hspace ih => exact reads_lastElement ih hspace
  | element _ hspace hspace' _ ih iht => exact reads_element ih hspace hspace' iht
  | member name hspace hspace' _ ih => exact reads_member name hspace hspace' ih
  | lastMember _ hspace ih => exact reads_lastMember ih hspace
  | members _ hspace hspace' _ ih iht => exact reads_members ih hspace hspace' iht

/-- **A text of a value is read as that value**, with white space behind it or without. -/
theorem parse?_of_spells {v : Json} {s space : List Char} (h : Spells (.value v) s) (hspace : IsBlank space) :
    parse? (s ++ space) = some v := by
  have hend : EndsNumber space := by
    have hnil : EndsNumber [] := fun _ hc => nomatch hc
    rw [← List.append_nil space]
    exact hnil.append hspace
  have hread := h.reads (2 * (s ++ space).length + 1) space hend (by
    rw [List.length_append]
    omega)
  have hrest : skipSpace space = [] := List.dropWhile_eq_nil_iff.mpr hspace
  rw [parse?, hread]
  simp [hrest]

theorem Spells.parse?_eq {v : Json} {s : List Char} (h : Spells (.value v) s) : parse? s = some v := by
  have hparse := parse?_of_spells h (List.forall_mem_nil _ : IsBlank [])
  rwa [List.append_nil] at hparse

/-! ## One member or element a line -/

/-- A value that can be told from its text: its strings and names have a text, and its numbers are
numbers. -/
inductive Proper : Json → Prop where
  | null : Proper .null
  | bool (value : Bool) : Proper (.bool value)
  | number {text : List Char} (h : IsNumber text) : Proper (.number text)
  | string (text : List Char) : Proper (.string (some text))
  | array {elements : List Json} (h : ∀ v ∈ elements, Proper v) : Proper (.array elements)
  | object {members : List (Option (List Char) × Json)} (hnames : ∀ m ∈ members, m.1.isSome = true)
      (hvalues : ∀ m ∈ members, Proper m.2) : Proper (.object members)

section Layout

variable {v : Json} {vs : List Json} {m : Member} {ms : List Member} {level : Nat}

theorem writeElements_eq (level : Nat) (vs : List Json) : writeElements level vs = vs.map (write level) := by
  induction vs with
  | nil => rfl
  | cons v vs ih => rw [writeElements, ih, List.map_cons]

/-- The text of a member. -/
def memberText (level : Nat) (m : Member) : List Char :=
  writeString (m.1.getD []) ++ ':' :: ' ' :: write level m.2

theorem writeMembers_eq (level : Nat) (ms : List Member) :
    writeMembers level ms = ms.map (memberText level) := by
  induction ms with
  | nil => rfl
  | cons m ms ih => rw [writeMembers, ih, List.map_cons, memberText]

/-- What stands behind an item of a block: further items, and the closing bracket on a line of its own. -/
def after (closing : Char) (level : Nat) (items : List (List Char)) : List Char :=
  items.flatMap (fun item => ',' :: newline (level + 1) ++ item) ++ newline level ++ [closing]

theorem after_nil {closing : Char} : after closing level [] = newline level ++ [closing] := rfl

theorem after_cons {closing : Char} {item : List Char} {items : List (List Char)} :
    after closing level (item :: items) =
      ',' :: (newline (level + 1) ++ (item ++ after closing level items)) := by
  simp [after]

theorem block_cons {opening closing : Char} {item : List Char} {items : List (List Char)} :
    block opening closing level (item :: items) =
      opening :: (newline (level + 1) ++ (item ++ after closing level items)) := by
  simp [block, after]

theorem isBlank_nil : IsBlank [] := List.forall_mem_nil _

/-- Elements one a line are a text of the elements. -/
theorem spells_elements (h : ∀ w ∈ v :: vs, Spells (.value w) (write (level + 1) w)) :
    Spells (.elements (v :: vs)) (write (level + 1) v ++ after ']' level (vs.map (write (level + 1)))) := by
  induction vs generalizing v with
  | nil =>
    rw [List.map_nil, after_nil]
    exact .lastElement (h v List.mem_cons_self) (isBlank_newline level)
  | cons w vs ih =>
    rw [List.map_cons, after_cons]
    exact .element (h v List.mem_cons_self) isBlank_nil (isBlank_newline (level + 1))
      (ih fun u hu => h u (List.mem_cons_of_mem v hu))

/-- A name, a colon, a blank and the value are a text of the member. -/
theorem spells_memberText (hname : m.1.isSome = true) (hvalue : Spells (.value m.2) (write level m.2)) :
    Spells (.member m) (memberText level m) := by
  obtain ⟨name, value⟩ := m
  obtain ⟨name, rfl⟩ := Option.isSome_iff_exists.mp hname
  have hblank : IsBlank [' '] := List.forall_mem_singleton.mpr rfl
  exact .member name isBlank_nil hblank hvalue

/-- Members one a line are a text of the members. -/
theorem spells_members (h : ∀ l ∈ m :: ms, Spells (.member l) (memberText (level + 1) l)) :
    Spells (.members (m :: ms))
      (memberText (level + 1) m ++ after '\x7d' level (ms.map (memberText (level + 1)))) := by
  induction ms generalizing m with
  | nil =>
    rw [List.map_nil, after_nil]
    exact .lastMember (h m List.mem_cons_self) (isBlank_newline level)
  | cons l ms ih =>
    rw [List.map_cons, after_cons]
    exact .members (h m List.mem_cons_self) isBlank_nil (isBlank_newline (level + 1))
      (ih fun k hk => h k (List.mem_cons_of_mem m hk))

theorem spells_array (h : ∀ w ∈ vs, Spells (.value w) (write (level + 1) w)) :
    Spells (.value (.array vs)) (write level (.array vs)) := by
  rw [write, writeElements_eq]
  cases vs with
  | nil => exact .emptyArray isBlank_nil
  | cons v vs =>
    rw [List.map_cons, block_cons]
    exact .array (isBlank_newline (level + 1)) (spells_elements h)

theorem spells_object (h : ∀ l ∈ ms, Spells (.member l) (memberText (level + 1) l)) :
    Spells (.value (.object ms)) (write level (.object ms)) := by
  rw [write, writeMembers_eq]
  cases ms with
  | nil => exact .emptyObject isBlank_nil
  | cons m ms =>
    rw [List.map_cons, block_cons]
    exact .object (isBlank_newline (level + 1)) (spells_members h)

end Layout

/-- **A proper value is written as a text of it**, at any level. -/
theorem Proper.spells {v : Json} (h : v.Proper) (level : Nat) : Spells (.value v) (write level v) := by
  induction h generalizing level with
  | null => exact .null
  | bool value =>
    cases value with
    | false => exact .false
    | true => exact .true
  | number h => exact .number h
  | string text => exact .string text
  | array _ ih => exact spells_array fun w hw => ih w hw (level + 1)
  | object hnames _ ih => exact spells_object fun m hm => spells_memberText (hnames m hm) (ih m hm (level + 1))

/-- **The text of a proper value is read as that value**, with white space behind it or without. -/
theorem parse?_pretty {v : Json} (h : v.Proper) {space : List Char} (hspace : IsBlank space) :
    parse? (v.pretty ++ space) = some v :=
  parse?_of_spells (h.spells 0) hspace

end LineCensus.Json
