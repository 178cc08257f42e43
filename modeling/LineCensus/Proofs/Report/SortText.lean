import LineCensus.SortOrder
import LineCensus.Proofs.Cutting
import LineCensus.Proofs.Text.Letter
import LineCensus.Proofs.Traversal

/-!
# `Proofs.Report.SortText` — how a sort order is written

A sort order is read from a text by cutting it at commas, trimming the parts, leaving out the empty ones, and
reading each of the others in one of two ways, with a colon and without. Said here is what comes of all
that: every part with something on it stands for one term, by its text before the first colon and its text
behind it, each without the white space around it (`SortTerm.Says`). That a part is trimmed before it is cut
at the colon makes no difference, since a colon is no white space (`parse_trim`).

The other way round, a text can be written for any sort order, with names in any ASCII case, white space
wherever a part or its sides begin and end, and blank parts in between (`SortOrder.Written`). It is read back
as that order, because nothing in such a part is a comma and no part with a name is blank.

## Contents

* `splitOn_eq` — cutting at a separator, as the library has it;
* `SortKey.Named`, `SortKey.parse_eq_ok_iff`, `SortKey.parse_eq_error_iff` — the names of a column;
* `beforeColon`, `afterColon`, `SortTerm.Says`, `SortTerm.parse_trim` — one part;
* `SortOrder.parts`, `SortOrder.parse_eq_mapM` — the parts that count;
* `SortTerm.Written`, `SortOrder.Written` — the spellings;
* `SortOrder.parse_reads_parts` — what is read, when nothing is, and that what is written is read back.
-/

namespace LineCensus

open Text

variable {text part : List Char} {key : SortKey} {term : SortTerm} {order : SortOrder}

/-! ## Cutting at separators -/

theorem splitOn_eq (sep : Char) (s : List Char) : splitOn sep s = s.splitOn sep := by
  induction s with
  | nil => rfl
  | cons c s ih =>
    have hcons : (c :: s).splitOn sep =
        if c == sep then [] :: s.splitOn sep else (s.splitOn sep).modifyHead (List.cons c) :=
      List.splitOnP_cons_eq_if_modifyHead c s
    rw [splitOn, ih, hcons]
    by_cases hc : c = sep
    · simp [hc]
    · obtain ⟨part, rest, hparts⟩ := List.exists_cons_of_ne_nil (List.splitOn_ne_nil sep s)
      simp [hc, hparts]

/-- The text before the first colon; all of it if there is none. -/
def beforeColon (part : List Char) : List Char := part.takeWhile (· != ':')

/-- The text behind the first colon; nothing if there is none. -/
def afterColon (part : List Char) : List Char := (part.dropWhile (· != ':')).drop 1

section Colon

variable {front back : List Char}

theorem beforeColon_append (h : ':' ∉ front) : beforeColon (front ++ ':' :: back) = front :=
  takeWhile_bne_append h back

theorem afterColon_append (h : ':' ∉ front) : afterColon (front ++ ':' :: back) = back := by
  rw [afterColon, dropWhile_bne_append h]
  rfl

theorem beforeColon_of_not_mem (h : ':' ∉ part) : beforeColon part = part := takeWhile_bne_of_not_mem h

theorem afterColon_of_not_mem (h : ':' ∉ part) : afterColon part = [] := by
  rw [afterColon, dropWhile_bne_of_not_mem h]
  rfl

theorem splitOnce?_append (h : ':' ∉ front) : splitOnce? ':' (front ++ ':' :: back) = some (front, back) := by
  rw [splitOnce?, dropWhile_bne_append h, takeWhile_bne_append h]

theorem splitOnce?_of_not_mem (h : ':' ∉ part) : splitOnce? ':' part = none := by
  rw [splitOnce?, dropWhile_bne_of_not_mem h]

end Colon

/-! ## Columns by their names -/

/-- The names of a column. -/
def SortKey.names : SortKey → List String
  | .lines => ["lines"]
  | .code => ["code"]
  | .comment => ["comment", "comments"]
  | .blank => ["blank"]
  | .name => ["name"]
  | .language => ["language", "lang"]

/-- The text is a name of the column in some ASCII case. -/
def SortKey.Named (key : SortKey) (text : List Char) : Prop :=
  ∃ name ∈ key.names, eqIgnoreAsciiCase text name.toList = true

theorem SortKey.lowerAscii_of_mem_names {name : String} (h : name ∈ key.names) :
    lowerAscii name.toList = name.toList := by
  revert h
  cases key <;> simp only [names, List.mem_cons, List.not_mem_nil, or_false] <;> rintro (rfl | rfl) <;> rfl

/-- A text is a name of a column if its form in lower case is. -/
theorem SortKey.named_iff : key.Named text ↔ String.ofList (lowerAscii text) ∈ key.names := by
  constructor
  · rintro ⟨name, hname, hsame⟩
    rw [eqIgnoreAsciiCase, beq_iff_eq, lowerAscii_of_mem_names hname] at hsame
    rwa [hsame, String.ofList_toList]
  · intro h
    refine ⟨_, h, ?_⟩
    rw [eqIgnoreAsciiCase, beq_iff_eq, lowerAscii_of_mem_names h, String.toList_ofList]

/-- **A column is read exactly from its names.** -/
theorem SortKey.parse_eq_ok_iff : SortKey.parse text = .ok key ↔ key.Named text := by
  rw [named_iff, SortKey.parse]
  generalize String.ofList (lowerAscii text) = name
  cases key <;> simp only [names, List.mem_cons, List.not_mem_nil, or_false] <;> grind

/-- Any other text is refused, and shown in lower case. -/
theorem SortKey.parse_eq_error_iff {message : String} :
    SortKey.parse text = .error message ↔
      (∀ key : SortKey, ¬ key.Named text) ∧
        message = "Unknown sort key: " ++ String.ofList (lowerAscii text) := by
  simp only [← parse_eq_ok_iff]
  rw [SortKey.parse]
  grind

/-! ## One part -/

/-- The name of the direction that is not rising. -/
def descendingName : List Char := ['d', 'e', 's', 'c']

/-- What a part says of a term: its text before the first colon is a name of the column, and its text behind
it the name of the direction if that is descending, both without the white space around them. -/
def SortTerm.Says (part : List Char) (term : SortTerm) : Prop :=
  term.key.Named (trim (beforeColon part)) ∧
    term.descending = eqIgnoreAsciiCase (trim (afterColon part)) descendingName

/-- **Trimming a part first changes nothing**: its sides are trimmed anyway, and a colon is no white space. -/
theorem SortTerm.parse_trim (part : List Char) :
    SortTerm.parse (trim part) = (SortKey.parse (trim (beforeColon part))).map fun key =>
      ⟨key, eqIgnoreAsciiCase (trim (afterColon part)) descendingName⟩ := by
  by_cases hcolon : ':' ∈ part
  · obtain ⟨front, back, rfl, hfront⟩ := List.eq_append_cons_of_mem hcolon
    have hfront' : ':' ∉ trimStart front := fun h => hfront ((List.dropWhile_sublist _).mem h)
    rw [beforeColon_append hfront, afterColon_append hfront, trim_append_cons (by decide), SortTerm.parse,
      splitOnce?_append hfront']
    simp only [trim_trimStart, trim_trimEnd]
    rfl
  · have htrim : ':' ∉ trim part := fun h => hcolon (mem_of_mem_trim h)
    rw [beforeColon_of_not_mem hcolon, afterColon_of_not_mem hcolon, SortTerm.parse,
      splitOnce?_of_not_mem htrim]
    rfl

theorem SortTerm.parse_trim_eq_ok_iff : SortTerm.parse (trim part) = .ok term ↔ term.Says part := by
  obtain ⟨key, descending⟩ := term
  rw [parse_trim, Says, ← SortKey.parse_eq_ok_iff]
  cases SortKey.parse (trim (beforeColon part)) with
  | error message => simp [Except.map]
  | ok key' =>
    simp only [Except.map, Except.ok.injEq, SortTerm.mk.injEq, and_congr_right_iff]
    exact fun _ => eq_comm

theorem SortTerm.parse_trim_eq_error_iff {message : String} :
    SortTerm.parse (trim part) = .error message ↔
      (∀ key : SortKey, ¬ key.Named (trim (beforeColon part))) ∧
        message = "Unknown sort key: " ++ String.ofList (lowerAscii (trim (beforeColon part))) := by
  rw [parse_trim, ← SortKey.parse_eq_error_iff]
  cases SortKey.parse (trim (beforeColon part)) <;> simp [Except.map]

/-! ## All parts -/

/-- The parts of a text between commas that are not blank. -/
def SortOrder.parts (text : List Char) : List (List Char) :=
  (text.splitOn ',').filter fun part => !isBlankText part

theorem SortOrder.parse_eq_mapM (text : List Char) :
    SortOrder.parse text = (parts text).mapM fun part => SortTerm.parse (trim part) := by
  have hempty : ((fun part => !List.isEmpty part) ∘ trim) = fun part => !isBlankText part := by
    funext part
    rw [Function.comp, Bool.eq_iff_iff]
    simp [trim_eq_nil_iff]
  rw [SortOrder.parse, splitOn_eq, List.filter_map, hempty, List.mapM_map]
  rfl

/-- **Each part that is not blank stands for one term.** -/
theorem SortOrder.parse_eq_ok_iff : SortOrder.parse text = .ok order ↔
    List.Forall₂ (fun part term => term.Says part) (parts text) order := by
  rw [parse_eq_mapM, mapM_eq_ok_iff]
  simp only [SortTerm.parse_trim_eq_ok_iff]

/-- **A text is refused for its first part that names no column.** -/
theorem SortOrder.parse_eq_error_iff {message : String} : SortOrder.parse text = .error message ↔
    ∃ before part after, parts text = before ++ part :: after ∧
      (∀ part ∈ before, ∃ key : SortKey, key.Named (trim (beforeColon part))) ∧
      (∀ key : SortKey, ¬ key.Named (trim (beforeColon part))) ∧
      message = "Unknown sort key: " ++ String.ofList (lowerAscii (trim (beforeColon part))) := by
  have hreads (part : List Char) : (∃ term, SortTerm.parse (trim part) = .ok term) ↔
      ∃ key : SortKey, key.Named (trim (beforeColon part)) := by
    simp only [SortTerm.parse_trim_eq_ok_iff]
    exact ⟨fun ⟨term, hkey, _⟩ => ⟨term.key, hkey⟩, fun ⟨key, hkey⟩ => ⟨⟨key, _⟩, hkey, rfl⟩⟩
  rw [parse_eq_mapM, mapM_eq_error_iff]
  simp only [hreads, SortTerm.parse_trim_eq_error_iff]

/-! ## Spellings -/

/-- A text with white space around it. -/
def Padded (s side : List Char) : Prop :=
  ∃ before after, isBlankText before = true ∧ isBlankText after = true ∧ side = before ++ s ++ after

/-- How a term is written: a name of its column, and behind a colon the name of its direction if it is
descending, both with any white space around them. A rising term has no colon, or anything else behind it. -/
inductive SortTerm.Written : SortTerm → List Char → Prop where
  | plain {key : SortKey} {name side : List Char} (hname : key.Named name) (hside : Padded name side) :
      Written ⟨key, false⟩ side
  | descending {key : SortKey} {name direction side back : List Char} (hname : key.Named name)
      (hside : Padded name side) (hdirection : eqIgnoreAsciiCase direction descendingName = true)
      (hback : Padded direction back) : Written ⟨key, true⟩ (side ++ ':' :: back)
  | rising {key : SortKey} {name side back : List Char} (hname : key.Named name) (hside : Padded name side)
      (hcomma : ',' ∉ back) (hother : eqIgnoreAsciiCase (trim back) descendingName = false) :
      Written ⟨key, false⟩ (side ++ ':' :: back)

/-- How a sort order is written, part by part: its terms in order, with any blank parts between them. -/
inductive SortOrder.Written : SortOrder → List (List Char) → Prop where
  | nil : Written [] []
  | blank {order : SortOrder} {piece : List Char} {pieces : List (List Char)}
      (hblank : isBlankText piece = true) (h : Written order pieces) : Written order (piece :: pieces)
  | term {order : SortOrder} {term : SortTerm} {piece : List Char} {pieces : List (List Char)}
      (hterm : term.Written piece) (h : Written order pieces) : Written (term :: order) (piece :: pieces)

/-! ### Words of letters -/

theorem SortKey.Named.isAlpha (h : key.Named text) : ∀ c ∈ text, c.isAlpha = true := by
  obtain ⟨name, hname, hsame⟩ := h
  refine isAlpha_of_eqIgnoreAsciiCase hsame ?_
  revert hname
  cases key <;> simp only [names, List.mem_cons, List.not_mem_nil, or_false] <;> rintro (rfl | rfl) <;> rfl

section Padded

variable {s side : List Char}

/-- Padding is what trimming takes off a word of letters. -/
theorem Padded.trim_eq (h : Padded s side) (hs : ∀ c ∈ s, c.isAlpha = true) : trim side = s := by
  obtain ⟨before, after, hbefore, hafter, rfl⟩ := h
  rw [trim_surround hbefore hafter]
  exact trim_eq_self fun c hc => isBlank_of_isAlpha (hs c hc)

/-- A padded word of letters has letters and white space only. -/
theorem Padded.not_mem (h : Padded s side) (hs : ∀ c ∈ s, c.isAlpha = true) {c : Char}
    (halpha : c.isAlpha = false) (hblank : isBlank c = false) : c ∉ side := by
  obtain ⟨before, after, hbefore, hafter, rfl⟩ := h
  rw [isBlankText_iff] at hbefore hafter
  simp only [List.mem_append, not_or]
  refine ⟨⟨fun hc => ?_, fun hc => ?_⟩, fun hc => ?_⟩
  · simp [hbefore c hc] at hblank
  · simp [hs c hc] at halpha
  · simp [hafter c hc] at hblank

end Padded

/-! ### Reading what is written -/

theorem SortTerm.Written.spelled (h : term.Written part) : term.Says part := by
  cases h with
  | plain hname hside =>
    have hcolon : ':' ∉ part := hside.not_mem hname.isAlpha rfl rfl
    rw [SortTerm.Says, beforeColon_of_not_mem hcolon, afterColon_of_not_mem hcolon, hside.trim_eq hname.isAlpha]
    exact ⟨hname, rfl⟩
  | @descending key name direction side back hname hside hdirection hback =>
    have hcolon : ':' ∉ side := hside.not_mem hname.isAlpha rfl rfl
    have hletters : ∀ c ∈ direction, c.isAlpha = true := isAlpha_of_eqIgnoreAsciiCase hdirection rfl
    rw [SortTerm.Says, beforeColon_append hcolon, afterColon_append hcolon, hside.trim_eq hname.isAlpha,
      hback.trim_eq hletters]
    exact ⟨hname, hdirection.symm⟩
  | @rising key name side back hname hside hcomma hother =>
    have hcolon : ':' ∉ side := hside.not_mem hname.isAlpha rfl rfl
    rw [SortTerm.Says, beforeColon_append hcolon, afterColon_append hcolon, hside.trim_eq hname.isAlpha]
    exact ⟨hname, hother.symm⟩

theorem SortTerm.Written.not_mem_comma (h : term.Written part) : ',' ∉ part := by
  cases h with
  | plain hname hside => exact hside.not_mem hname.isAlpha rfl rfl
  | @descending key name direction side back hname hside hdirection hback =>
    have hletters : ∀ c ∈ direction, c.isAlpha = true := isAlpha_of_eqIgnoreAsciiCase hdirection rfl
    have hfront : ',' ∉ side := hside.not_mem hname.isAlpha rfl rfl
    have hend : ',' ∉ back := hback.not_mem hletters rfl rfl
    simp [hfront, hend]
  | @rising key name side back hname hside hcomma hother =>
    have hfront : ',' ∉ side := hside.not_mem hname.isAlpha rfl rfl
    simp [hfront, hcomma]

/-- No blank part says anything. -/
theorem SortTerm.Says.not_blank (h : term.Says part) : isBlankText part = false := by
  rw [← Bool.not_eq_true, ← trim_eq_nil_iff]
  intro hnil
  have hparse : SortTerm.parse (trim part) = .ok term := SortTerm.parse_trim_eq_ok_iff.mpr h
  have hrefused : SortTerm.parse [] = .error "Unknown sort key: " := rfl
  rw [hnil, hrefused] at hparse
  cases hparse

theorem SortOrder.Written.not_mem_comma {pieces : List (List Char)} (h : SortOrder.Written order pieces) :
    ∀ piece ∈ pieces, ',' ∉ piece := by
  induction h with
  | nil => simp
  | blank hblank _ ih =>
    refine List.forall_mem_cons.mpr ⟨fun hcomma => ?_, ih⟩
    exact absurd (isBlankText_iff.mp hblank _ hcomma) (by decide)
  | term hterm _ ih => exact List.forall_mem_cons.mpr ⟨hterm.not_mem_comma, ih⟩

/-- The parts that are not blank say the terms. -/
theorem SortOrder.Written.spelled {pieces : List (List Char)} (h : SortOrder.Written order pieces) :
    List.Forall₂ (fun part term => term.Says part) (pieces.filter fun part => !isBlankText part) order := by
  induction h with
  | nil => exact .nil
  | blank hblank _ ih => simpa [hblank] using ih
  | term hterm _ ih =>
    have hspelled := hterm.spelled
    rw [List.filter_cons_of_pos (by simp [hspelled.not_blank])]
    exact .cons hspelled ih

theorem SortOrder.parts_intercalate {pieces : List (List Char)} (h : ∀ piece ∈ pieces, ',' ∉ piece) :
    parts ([','].intercalate pieces) = pieces.filter fun part => !isBlankText part := by
  cases pieces with
  | nil => rfl
  | cons piece pieces => rw [parts, List.splitOn_intercalate ',' h (List.cons_ne_nil _ _)]

/-! ## The whole text -/

/-- **A sort order is read exactly from its spellings.** A text is accepted if each part between commas that
is not blank names a column before its first colon. Then it stands for one term a part, in order: the column
named there, descending if the text behind the colon is the name of that direction. Otherwise the first part
that names no column is what is reported. And whatever is written for a sort order is read back as it. -/
theorem SortOrder.parse_reads_parts :
    (∀ text, (∃ order, SortOrder.parse text = .ok order) ↔
      ∀ part ∈ parts text, ∃ key : SortKey, key.Named (trim (beforeColon part))) ∧
    (∀ text order, SortOrder.parse text = .ok order ↔
      List.Forall₂ (fun part term => term.Says part) (parts text) order) ∧
    (∀ text message, SortOrder.parse text = .error message ↔
      ∃ before part after, parts text = before ++ part :: after ∧
        (∀ part ∈ before, ∃ key : SortKey, key.Named (trim (beforeColon part))) ∧
        (∀ key : SortKey, ¬ key.Named (trim (beforeColon part))) ∧
        message = "Unknown sort key: " ++ String.ofList (lowerAscii (trim (beforeColon part)))) ∧
    ∀ order pieces, SortOrder.Written order pieces →
      SortOrder.parse ([','].intercalate pieces) = .ok order := by
  refine ⟨fun text => ?_, fun text order => parse_eq_ok_iff, fun text message => parse_eq_error_iff, ?_⟩
  · constructor
    · rintro ⟨order, horder⟩ part hpart
      rw [parse_eq_mapM] at horder
      obtain ⟨term, hterm⟩ := ok_of_mapM_eq_ok horder hpart
      exact ⟨term.key, (SortTerm.parse_trim_eq_ok_iff.mp hterm).1⟩
    · intro hnamed
      cases hparse : SortOrder.parse text with
      | ok order => exact ⟨order, rfl⟩
      | error message =>
        obtain ⟨before, part, after, hparts, -, hunnamed, -⟩ := parse_eq_error_iff.mp hparse
        obtain ⟨key, hkey⟩ := hnamed part (by simp [hparts])
        exact absurd hkey (hunnamed key)
  · intro order pieces hwritten
    rw [parse_eq_ok_iff, parts_intercalate hwritten.not_mem_comma]
    exact hwritten.spelled

/-- Two terms with a blank part between them, in mixed case, padded inside and outside; the second one has two
colons. -/
theorem SortOrder.parse_reads_parts_padded :
    let order : SortOrder := [⟨.code, true⟩, ⟨.comment, false⟩]
    let pieces := [" Code :\tDESC ".toList, " ".toList, "COMMENTS : up:down".toList]
    SortOrder.Written order pieces ∧ SortOrder.parse ([','].intercalate pieces) = .ok order := by
  intro order pieces
  have hcode : SortTerm.Written ⟨.code, true⟩ " Code :\tDESC ".toList := by
    have hname : SortKey.Named .code "Code".toList := ⟨"code", by decide, by decide⟩
    have hside : Padded "Code".toList " Code ".toList := ⟨[' '], [' '], by decide, by decide, by decide⟩
    have hback : Padded "DESC".toList "\tDESC ".toList := ⟨['\t'], [' '], by decide, by decide, by decide⟩
    exact .descending hname hside (by decide) hback
  have hcomment : SortTerm.Written ⟨.comment, false⟩ "COMMENTS : up:down".toList := by
    have hname : SortKey.Named .comment "COMMENTS".toList := ⟨"comments", by decide, by decide⟩
    have hside : Padded "COMMENTS".toList "COMMENTS ".toList := ⟨[], [' '], by decide, by decide, by decide⟩
    have hcomma : ',' ∉ " up:down".toList := by decide
    exact .rising hname hside hcomma (by decide)
  have hwritten : SortOrder.Written order pieces := .term hcode (.blank (by decide) (.term hcomment .nil))
  exact ⟨hwritten, parse_reads_parts.2.2.2 order pieces hwritten⟩

end LineCensus
