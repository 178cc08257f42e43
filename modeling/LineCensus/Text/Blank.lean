import LineCensus.Text.Range

/-!
# `Text.Blank` — white space and what is left of a text without it

White space is the property White_Space: besides the ASCII blanks it holds the no-break and
typographic spaces, but no zero-width character.

## Contents

* `isBlank` — the property;
* `isBlankText` — a text with nothing but white space;
* `trim`, `trimStart`, `trimEnd` — a text without the white space around it.
-/

namespace LineCensus.Text

/-- The code points with the property White_Space. -/
def blankRanges : Ranges := [
    (0x09, 0x0D), (0x20, 0x20), (0x85, 0x85), (0xA0, 0xA0), (0x1680, 0x1680), (0x2000, 0x200A),
    (0x2028, 0x2029), (0x202F, 0x202F), (0x205F, 0x205F), (0x3000, 0x3000)]

/-- Whether the character is white space. -/
def isBlank (c : Char) : Bool := blankRanges.has c

/-- Whether the text holds white space only. -/
def isBlankText (s : List Char) : Bool := s.all isBlank

@[simp] theorem isBlankText_nil : isBlankText [] = true := rfl

@[simp] theorem isBlankText_cons {c : Char} {s : List Char} :
    isBlankText (c :: s) = (isBlank c && isBlankText s) := rfl

@[simp] theorem isBlankText_append {s t : List Char} :
    isBlankText (s ++ t) = (isBlankText s && isBlankText t) := by
  simp [isBlankText]

/-- The text without the white space before it. -/
def trimStart (s : List Char) : List Char := s.dropWhile isBlank

/-- The text without the white space after it. -/
def trimEnd (s : List Char) : List Char := (s.reverse.dropWhile isBlank).reverse

/-- The text without the white space around it. -/
def trim (s : List Char) : List Char := trimEnd (trimStart s)

end LineCensus.Text
