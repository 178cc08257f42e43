import LineCensus.Text.Extender
import LineCensus.Text.Printable

/-!
# `Text.Quoted` — a text shown in double quotes

Quotes, backslashes and the usual controls are written with a backslash; every other character
that does not show as itself, and every character that would attach to the one before it, is
written as `\u` and its code point in braces.
-/

namespace LineCensus.Text

/-- The digits of a number to base 16, lower case, without padding. -/
def hexDigits (n : Nat) : List Char := Nat.toDigits 16 n

/-- One character of a quoted text. -/
def quotedChar (c : Char) : List Char :=
  if c = '"' then ['\\', '"']
  else if c = '\\' then ['\\', '\\']
  else if c = '\n' then ['\\', 'n']
  else if c = '\r' then ['\\', 'r']
  else if c = '\t' then ['\\', 't']
  else if c = '\x00' then ['\\', '0']
  else if isExtender c || !isPrintable c then
    ['\\', 'u', '\x7b'] ++ hexDigits c.toNat ++ ['\x7d']
  else [c]

/-- The text in double quotes. -/
def quoted (s : List Char) : List Char := '"' :: s.flatMap quotedChar ++ ['"']

end LineCensus.Text
