/-!
# `Json` — JSON values and their text

## Contents

* `Json` — values; numbers are kept as written, objects keep the order of their members;
* `Json.escapeChar`, `Json.writeString` — strings: quotes, backslashes and control characters are
  escaped, everything else stands for itself;
* `Json.pretty` — the text with one member or element a line, two blanks a level.
-/

namespace LineCensus

/-- A JSON value. The text of a string is absent if an escape in it is half of a pair that stands
for one character: such a string is well formed but has no text. -/
inductive Json where
  | null
  | bool (value : Bool)
  | number (text : List Char)
  | string (text : Option (List Char))
  | array (elements : List Json)
  | object (members : List (Option (List Char) × Json))

namespace Json

/-- The string of a text. -/
def text (s : String) : Json := .string (some s.toList)

/-- A whole number. -/
def nat (n : Nat) : Json := .number (Nat.toDigits 10 n)

/-- An object whose names are texts. -/
def ofMembers (members : List (String × Json)) : Json :=
  .object (members.map fun m => (some m.1.toList, m.2))

/-! ## Strings -/

/-- A number below `16 ^ 4` as four digits, lower case. -/
def hex4 (n : Nat) : List Char :=
  let digits := Nat.toDigits 16 n
  List.replicate (4 - digits.length) '0' ++ digits

/-- A character as it stands in a string. -/
def escapeChar (c : Char) : List Char :=
  if c = '"' then ['\\', '"']
  else if c = '\\' then ['\\', '\\']
  else if c = '\x08' then ['\\', 'b']
  else if c = '\x0c' then ['\\', 'f']
  else if c = '\n' then ['\\', 'n']
  else if c = '\r' then ['\\', 'r']
  else if c = '\t' then ['\\', 't']
  else if c.toNat < 0x20 then '\\' :: 'u' :: hex4 c.toNat
  else [c]

/-- A string in quotes. -/
def writeString (s : List Char) : List Char := '"' :: s.flatMap escapeChar ++ ['"']

/-! ## Layout -/

/-- A new line at a level. -/
def newline (level : Nat) : List Char := '\n' :: List.replicate (2 * level) ' '

/-- Items one a line, between brackets. -/
def block (opening closing : Char) (level : Nat) (items : List (List Char)) : List Char :=
  match items with
  | [] => [opening, closing]
  | first :: rest =>
    opening :: newline (level + 1) ++ first ++
      rest.flatMap (fun item => ',' :: newline (level + 1) ++ item) ++ newline level ++ [closing]

mutual

/-- The text of a value that begins at a level. -/
def write (level : Nat) : Json → List Char
  | .null => ['n', 'u', 'l', 'l']
  | .bool true => ['t', 'r', 'u', 'e']
  | .bool false => ['f', 'a', 'l', 's', 'e']
  | .number text => text
  | .string text => writeString (text.getD [])
  | .array elements => block '[' ']' level (writeElements (level + 1) elements)
  | .object members => block '\x7b' '\x7d' level (writeMembers (level + 1) members)

/-- The texts of the elements of an array. -/
def writeElements (level : Nat) : List Json → List (List Char)
  | [] => []
  | v :: vs => write level v :: writeElements level vs

/-- The texts of the members of an object. -/
def writeMembers (level : Nat) : List (Option (List Char) × Json) → List (List Char)
  | [] => []
  | m :: ms =>
    (writeString (m.1.getD []) ++ ':' :: ' ' :: write level m.2) :: writeMembers level ms

end

/-- The text of a value. -/
def pretty (v : Json) : List Char := write 0 v

end Json

end LineCensus
