/-!
# `Text.Utf8` — the byte form of a text

Positions in a line are counted in bytes of its UTF-8 form, and files are bytes that need not be a
text at all.

## Contents

* `byteLength` — the length of a text in bytes;
* `cut?` — a text cut at a byte offset, refused inside a character or past the end;
* `encode`, `decodeLossy`, `decode?` — from text to bytes and back. An ill-formed stretch of bytes
  ends with the first byte that cannot continue it; `decodeLossy` puts U+FFFD for each stretch and
  `decode?` refuses the whole.
-/

namespace LineCensus.Text

/-! ## Offsets -/

/-- The number of bytes of a text. -/
def byteLength : List Char → Nat
  | [] => 0
  | c :: s => c.utf8Size + byteLength s

@[simp] theorem byteLength_nil : byteLength [] = 0 := rfl

@[simp] theorem byteLength_cons {c : Char} {s : List Char} :
    byteLength (c :: s) = c.utf8Size + byteLength s := rfl

@[simp] theorem byteLength_append {s t : List Char} :
    byteLength (s ++ t) = byteLength s + byteLength t := by
  induction s with
  | nil => simp
  | cons c s ih => simp [ih, Nat.add_assoc]

theorem byteLength_eq_zero {s : List Char} : byteLength s = 0 ↔ s = [] := by
  cases s with
  | nil => simp
  | cons c s => simp; have := c.utf8Size_pos; omega

theorem byteLength_pos {s : List Char} (h : s ≠ []) : 0 < byteLength s :=
  Nat.pos_of_ne_zero (mt byteLength_eq_zero.1 h)

/-- The text before and after a byte offset, if the offset is the boundary of a character. -/
def cut? : Nat → List Char → Option (List Char × List Char)
  | 0, s => some ([], s)
  | _ + 1, [] => none
  | n + 1, c :: s =>
    if c.utf8Size ≤ n + 1 then
      (cut? (n + 1 - c.utf8Size) s).map fun halves => (c :: halves.1, halves.2)
    else
      none

/-- A text can be cut exactly at the ends of its initial parts. -/
theorem cut?_eq_some_iff {n : Nat} {s before after : List Char} :
    cut? n s = some (before, after) ↔ s = before ++ after ∧ n = byteLength before := by
  induction s generalizing n before after with
  | nil =>
    cases n with
    | zero => cases before <;> simp [cut?, eq_comm]
    | succ n =>
      simp [cut?]
      intro hb _
      subst hb
      simp
  | cons c s ih =>
    have hc := c.utf8Size_pos
    cases n with
    | zero =>
      cases before with
      | nil => simp [cut?, eq_comm]
      | cons b before =>
        have hb := b.utf8Size_pos
        simp [cut?]
        intros
        omega
    | succ n =>
      cases before with
      | nil =>
        simp [cut?]
      | cons b before =>
        by_cases hle : c.utf8Size ≤ n + 1
        · simp only [cut?, hle, if_true, Option.map_eq_some_iff, Prod.exists, Prod.mk.injEq,
            List.cons.injEq, List.cons_append, byteLength_cons]
          constructor
          · rintro ⟨b', a', hcut, ⟨rfl, rfl⟩, rfl⟩
            obtain ⟨hs, hn⟩ := ih.1 hcut
            exact ⟨⟨rfl, hs⟩, by omega⟩
          · rintro ⟨⟨rfl, rfl⟩, hn⟩
            exact ⟨before, after, ih.2 ⟨rfl, by omega⟩, ⟨rfl, rfl⟩, rfl⟩
        · simp only [cut?, hle, if_false]
          constructor
          · intro h; exact absurd h (by simp)
          · rintro ⟨h, hn⟩
            simp only [List.cons_append, List.cons.injEq] at h
            obtain ⟨rfl, -⟩ := h
            simp at hn
            omega

theorem cut?_append {s t : List Char} : cut? (byteLength s) (s ++ t) = some (s, t) :=
  cut?_eq_some_iff.2 ⟨rfl, rfl⟩

/-! ## Bytes -/

/-- The UTF-8 form of a text. -/
def encode (s : List Char) : List UInt8 := s.flatMap String.utf8EncodeChar

/-- What an unfinished character still needs: the number of bytes, the range that the next of them
must lie in, and the bits read so far. -/
structure Unfinished where
  missing : Nat
  low : UInt8
  high : UInt8
  bits : Nat

/-- The character of a code point that is known to be a scalar value. -/
def scalar (n : Nat) : Char := Char.ofNat n

/-- A byte where a character may begin: a whole character, the start of a longer one, or neither.
The ranges of the second byte leave out overlong forms, surrogates and everything above U+10FFFF. -/
def leadByte (b : UInt8) : Char ⊕ Option Unfinished :=
  if b < 0x80 then .inl (scalar b.toNat)
  else if b < 0xC2 then .inr none
  else if b < 0xE0 then .inr (some ⟨1, 0x80, 0xBF, b.toNat - 0xC0⟩)
  else if b < 0xF0 then
    .inr (some ⟨2, if b == 0xE0 then 0xA0 else 0x80, if b == 0xED then 0x9F else 0xBF,
      b.toNat - 0xE0⟩)
  else if b < 0xF5 then
    .inr (some ⟨3, if b == 0xF0 then 0x90 else 0x80, if b == 0xF4 then 0x8F else 0xBF,
      b.toNat - 0xF0⟩)
  else .inr none

/-- What the bytes hold from here on, one piece for each character and `none` for each ill-formed
stretch. -/
def piecesFrom : Option Unfinished → List UInt8 → List (Option Char)
  | none, [] => []
  | some _, [] => [none]
  | none, b :: bytes =>
    match leadByte b with
    | .inl c => some c :: piecesFrom none bytes
    | .inr (some u) => piecesFrom (some u) bytes
    | .inr none => none :: piecesFrom none bytes
  | some u, b :: bytes =>
    if u.low ≤ b ∧ b ≤ u.high then
      let bits := u.bits * 64 + (b.toNat - 0x80)
      -- after the second byte any continuation byte will do
      match u.missing with
      | 0 | 1 => some (scalar bits) :: piecesFrom none bytes
      | missing + 1 => piecesFrom (some ⟨missing, 0x80, 0xBF, bits⟩) bytes
    else
      -- the byte ends what is unfinished, and is read again as the first of a character
      match leadByte b with
      | .inl c => none :: some c :: piecesFrom none bytes
      | .inr (some v) => none :: piecesFrom (some v) bytes
      | .inr none => none :: none :: piecesFrom none bytes

/-- The characters and ill-formed stretches of the bytes. -/
def pieces (bytes : List UInt8) : List (Option Char) := piecesFrom none bytes

/-- The bytes as text, with U+FFFD in place of each ill-formed stretch. -/
def decodeLossy (bytes : List UInt8) : List Char := (pieces bytes).map (·.getD '\uFFFD')

/-- The bytes as text, if all of them are well formed. -/
def decode? (bytes : List UInt8) : Option (List Char) := (pieces bytes).mapM id

end LineCensus.Text
