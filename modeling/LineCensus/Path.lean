import LineCensus.Text.Utf8

/-!
# `Path` — file names as bytes

A path is a sequence of bytes other than NUL. It need not be well-formed text.

## Contents

* `Path.display`, `Path.text?` — the path as text, lossy or refused;
* `Component`, `Path.components` — the steps of a path: empty steps and `.` are dropped, except a
  `.` at the very start;
* `Path.compare` — the order of paths, step by step. Paths that differ in spelling only are equal;
* `Path.name?`, `Path.extension?` — the last step, and what follows its last dot;
* `Path.join`, `Path.append`, `Path.ofNames` — paths made of others and of names.
-/

namespace LineCensus

/-- A file name as bytes. -/
structure Path where
  bytes : List UInt8
deriving DecidableEq, Repr

/-- A step of a path. -/
inductive Component where
  /-- The slash that an absolute path begins with. -/
  | root
  /-- `.` -/
  | current
  /-- `..` -/
  | parent
  | normal (name : List UInt8)
deriving DecidableEq, Repr

namespace Component

/-- The place of the step among the sorts of steps. -/
def rank : Component → Nat
  | .root => 0
  | .current => 1
  | .parent => 2
  | .normal _ => 3

/-- The name of a normal step, empty for the others. -/
def nameBytes : Component → List UInt8
  | .normal name => name
  | _ => []

/-- The order of steps: by sort, then by the bytes of the name. -/
def compare (a b : Component) : Ordering :=
  (Ord.compare a.rank b.rank).then (Ord.compare a.nameBytes b.nameBytes)

instance : Ord Component := ⟨compare⟩

end Component

namespace Path

/-- The path of a text. -/
def ofString (s : String) : Path := ⟨Text.encode s.toList⟩

/-- The path as text, with U+FFFD for what is ill formed. -/
def display (p : Path) : String := String.ofList (Text.decodeLossy p.bytes)

/-- The path as text, if it is well formed. -/
def text? (p : Path) : Option String := (Text.decode? p.bytes).map String.ofList

/-- The byte `/`. -/
def slash : UInt8 := 0x2F

/-- The byte `.`. -/
def dot : UInt8 := 0x2E

/-- The bytes between slashes. -/
def split : List UInt8 → List (List UInt8)
  | [] => [[]]
  | b :: bytes =>
    if b == slash then [] :: split bytes
    else
      match split bytes with
      | [] => [[b]]
      | piece :: rest => (b :: piece) :: rest

/-- The step that a piece between slashes is, other than a first `.`. -/
def component? (piece : List UInt8) : Option Component :=
  if piece.isEmpty || piece == [dot] then none
  else if piece == [dot, dot] then some .parent
  else some (.normal piece)

/-- The steps of the path. -/
def components (p : Path) : List Component :=
  match split p.bytes with
  | [] => []
  | first :: rest =>
    let tail := rest.filterMap component?
    if first.isEmpty then (if rest.isEmpty then tail else .root :: tail)
    else if first == [dot] then .current :: tail
    else (component? first).toList ++ tail

/-- The order of paths. -/
def compare (a b : Path) : Ordering := Ord.compare a.components b.components

instance : Ord Path := ⟨compare⟩

/-- Whether the path starts at the root. -/
def isAbsolute (p : Path) : Bool := p.bytes.head? == some slash

/-- The last step of the path, unless it is the root, `.` or `..`. -/
def name? (p : Path) : Option (List UInt8) :=
  match p.components.getLast? with
  | some (.normal name) => some name
  | _ => none

/-- What follows the last dot of a name. A dot at the start alone makes no extension. -/
def nameExtension? (name : List UInt8) : Option (List UInt8) :=
  let stem := name.reverse.dropWhile (· != dot)
  if stem.length ≤ 1 then none
  else some (name.drop stem.length)

/-- The extension of the path: what follows the last dot of its name. -/
def extension? (p : Path) : Option (List UInt8) := p.name?.bind nameExtension?

/-- The extension as text; none if it is not well formed. -/
def extensionText? (p : Path) : Option String :=
  (p.extension?.bind Text.decode?).map String.ofList

/-- The path of an entry of a directory. -/
def join (p : Path) (name : List UInt8) : Path :=
  if p.bytes.isEmpty || p.bytes.getLast? == some slash then ⟨p.bytes ++ name⟩
  else ⟨p.bytes ++ slash :: name⟩

/-- A path seen from another one: the path itself if it is absolute. -/
def append (p q : Path) : Path := if q.isAbsolute then q else p.join q.bytes

/-- The absolute path of names from the top down. -/
def ofNames (names : List (List UInt8)) : Path :=
  if names.isEmpty then ⟨[slash]⟩ else ⟨names.flatMap (slash :: ·)⟩

end Path

end LineCensus
