import LineCensus.Yaml.Token

/-!
# `Yaml.Node` — the values that a YAML text holds

## Contents

* `Node` — scalars, sequences, mappings and references to anchored nodes;
* `Node.find?`, `Node.size` — the node of an anchor, and a measure of a document;
* `Anchors` — the numbers of anchors. A name that comes back gets a new number, which is one more
  than there are other names: a later name may then share it, and the later node is meant;
* `Node.ofTokens?`, `Node.read?` — the document of a text, none if the text is malformed or has more
  than one.
-/

namespace LineCensus.Yaml

/-- A value. Anchors are numbered. -/
inductive Node where
  | scalar (anchor : Option Nat) (tag : Option (List UInt8)) (plain : Bool) (text : List Char)
  | sequence (anchor : Option Nat) (items : List Node)
  | mapping (anchor : Option Nat) (entries : List (Node × Node))
  /-- Another place of the node with this anchor. -/
  | reference (anchor : Nat)

namespace Node

/-- The empty scalar that stands for a value left out. -/
def absent : Node := .scalar none none true []

mutual

/-- The last node with an anchor, in the order of the text. -/
def find? (n : Nat) : Node → Option Node
  | .scalar a tag plain text => if a = some n then some (.scalar a tag plain text) else none
  | .sequence a items =>
    (findItem? n items).or (if a = some n then some (.sequence a items) else none)
  | .mapping a entries =>
    (findPair? n entries).or (if a = some n then some (.mapping a entries) else none)
  | .reference _ => none

/-- The last node with an anchor in a sequence. -/
def findItem? (n : Nat) : List Node → Option Node
  | [] => none
  | item :: items => (findItem? n items).or (find? n item)

/-- The last node with an anchor in a mapping. -/
def findPair? (n : Nat) : List (Node × Node) → Option Node
  | [] => none
  | entry :: entries => (findPair? n entries).or ((find? n entry.2).or (find? n entry.1))

end

mutual

/-- One for each scalar and reference, two for each collection. -/
def size : Node → Nat
  | .scalar .. => 1
  | .sequence _ items => 2 + sizeItems items
  | .mapping _ entries => 2 + sizeEntries entries
  | .reference _ => 1

/-- The sizes of the items together. -/
def sizeItems : List Node → Nat
  | [] => 0
  | item :: items => size item + sizeItems items

/-- The sizes of the entries together. -/
def sizeEntries : List (Node × Node) → Nat
  | [] => 0
  | entry :: entries => size entry.1 + size entry.2 + sizeEntries entries

end

end Node

/-! ## Anchors and tags -/

/-- The anchors seen so far: each name with its number, and what the handles of tags stand for. -/
structure Anchors where
  names : List (List Char × Nat) := []
  handles : List (List Char × List UInt8) := []

namespace Anchors

/-- The handles that need no directive. -/
def standardHandles : List (List Char × List UInt8) :=
  [(['!'], Text.encode ['!']), (['!', '!'], Text.encode "tag:yaml.org,2002:".toList)]

/-- The number of the next anchor: how many names there are. -/
def next (a : Anchors) : Nat := (a.names.map Prod.fst).eraseDups.length

/-- Numbers an anchor. -/
def add (a : Anchors) : Option (List Char) → Option Nat × Anchors
  | none => (none, a)
  | some name => (some a.next, { a with names := (name, a.next) :: a.names })

/-- The bytes of a tag; none if its handle is not known. -/
def expand? (a : Anchors) (t : Tag) : Option (List UInt8) :=
  if t.handle.isEmpty then some t.suffix
  else ((a.handles ++ standardHandles).lookup t.handle).map (· ++ t.suffix)

end Anchors

/-! ## Parsing -/

/-- A node read, the anchors so far, and the tokens behind it. -/
abbrev Parsed (α : Type) := Option (α × Anchors × List Token)

/-- What stands before the content of a node. -/
structure Properties where
  anchor : Option (List Char) := none
  tag : Option Tag := none

/-- Takes an anchor and a tag, each at most once, in either order. -/
def Properties.take : List Token → Properties × List Token
  | .anchor name :: .tag t :: rest => (⟨some name, some t⟩, rest)
  | .tag t :: .anchor name :: rest => (⟨some name, some t⟩, rest)
  | .anchor name :: rest => (⟨some name, none⟩, rest)
  | .tag t :: rest => (⟨none, some t⟩, rest)
  | rest => ({}, rest)

/-- Whether a value is left out before this token, or at the end. -/
def endsBlockValue : List Token → Bool
  | .key :: _ | .value :: _ | .blockEnd :: _ => true
  | _ => false

/-- Whether an item is left out before this token. -/
def endsBlockItem : List Token → Bool
  | .blockEntry :: _ | .blockEnd :: _ => true
  | _ => false

/-- Whether a key is left out before this token inside brackets. -/
def endsFlowKey (closing : Token) : List Token → Bool
  | .value :: _ | .flowEntry :: _ => true
  | t :: _ => t == closing
  | [] => false

/-- Whether a value is left out before this token inside brackets. -/
def endsFlowValue (closing : Token) : List Token → Bool
  | .flowEntry :: _ => true
  | t :: _ => t == closing
  | [] => false

mutual

/-- Reads a node. In a block it may be a block collection; as the value of a key it may also be a
sequence whose dashes stand in the column of the key. -/
def parseNode? (fuel : Nat) (block underKey : Bool) (a : Anchors) (ts : List Token) : Parsed Node :=
  match fuel with
  | 0 => none
  | fuel + 1 =>
    match ts with
    | .reference name :: rest => (a.names.lookup name).map fun n => (.reference n, a, rest)
    | _ =>
      let (props, rest) := Properties.take ts
      let tag? : Option (Option (List UInt8)) :=
        match props.tag with
        | none => some none
        | some t => (a.expand? t).map some
      match tag? with
      | none => none
      | some tag =>
        let (anchor, a) := a.add props.anchor
        match rest with
        | .scalar plain text :: rest =>
          let tag := if tag == some (Text.encode ['!']) then none else tag
          some (.scalar anchor tag plain text, a, rest)
        | .flowSequenceStart :: rest =>
          (parseFlowItems? fuel true a rest).map fun r => (.sequence anchor r.1, r.2)
        | .flowMappingStart :: rest =>
          (parseFlowEntries? fuel true a rest).map fun r => (.mapping anchor r.1, r.2)
        | t :: after =>
          if underKey && t == .blockEntry then
            (parseBareItems? fuel a rest).map fun r => (.sequence anchor r.1, r.2)
          else if block && t == .blockSequenceStart then
            (parseBlockItems? fuel a after).map fun r => (.sequence anchor r.1, r.2)
          else if block && t == .blockMappingStart then
            (parseBlockEntries? fuel a after).map fun r => (.mapping anchor r.1, r.2)
          else if props.anchor.isSome || props.tag.isSome then
            some (.scalar anchor tag true [], a, rest)
          else none
        | [] =>
          if props.anchor.isSome || props.tag.isSome then some (.scalar anchor tag true [], a, [])
          else none

/-- Reads the items of a block sequence, to its end. -/
def parseBlockItems? (fuel : Nat) (a : Anchors) (ts : List Token) : Parsed (List Node) :=
  match fuel with
  | 0 => none
  | fuel + 1 =>
    match ts with
    | .blockEntry :: rest =>
      let item := if endsBlockItem rest then some (.absent, a, rest)
        else parseNode? fuel true false a rest
      match item with
      | none => none
      | some (v, a, rest) => (parseBlockItems? fuel a rest).map fun r => (v :: r.1, r.2)
    | .blockEnd :: rest => some ([], a, rest)
    | _ => none

/-- Reads the items of a sequence that has no end of its own. -/
def parseBareItems? (fuel : Nat) (a : Anchors) (ts : List Token) : Parsed (List Node) :=
  match fuel with
  | 0 => none
  | fuel + 1 =>
    match ts with
    | .blockEntry :: rest =>
      let item := if endsBlockItem rest || endsBlockValue rest then some (.absent, a, rest)
        else parseNode? fuel true false a rest
      match item with
      | none => none
      | some (v, a, rest) => (parseBareItems? fuel a rest).map fun r => (v :: r.1, r.2)
    | rest => some ([], a, rest)

/-- Reads the value of a block mapping's key, if there is one. -/
def parseBlockValue? (fuel : Nat) (a : Anchors) (ts : List Token) : Parsed Node :=
  match fuel with
  | 0 => none
  | fuel + 1 =>
    match ts with
    | .value :: rest =>
      if endsBlockValue rest then some (.absent, a, rest) else parseNode? fuel true true a rest
    | rest => some (.absent, a, rest)

/-- Reads the entries of a block mapping, to its end. -/
def parseBlockEntries? (fuel : Nat) (a : Anchors) (ts : List Token) :
    Parsed (List (Node × Node)) :=
  match fuel with
  | 0 => none
  | fuel + 1 =>
    match ts with
    | .blockEnd :: rest => some ([], a, rest)
    | .key :: rest =>
      let key := if endsBlockValue rest then some (.absent, a, rest)
        else parseNode? fuel true true a rest
      match key with
      | none => none
      | some (k, a, rest) =>
        match parseBlockValue? fuel a rest with
        | none => none
        | some (v, a, rest) => (parseBlockEntries? fuel a rest).map fun r => ((k, v) :: r.1, r.2)
    | _ => none

/-- Reads the items between brackets, to the closing one. An item may be a mapping of one entry. -/
def parseFlowItems? (fuel : Nat) (first : Bool) (a : Anchors) (ts : List Token) :
    Parsed (List Node) :=
  match fuel with
  | 0 => none
  | fuel + 1 =>
    let rest? : Option (List Token) :=
      match first, ts with
      | true, ts => some ts
      | false, .flowEntry :: rest => some rest
      | false, .flowSequenceEnd :: rest => some (.flowSequenceEnd :: rest)
      | false, _ => none
    match rest? with
    | none => none
    | some (.flowSequenceEnd :: rest) => some ([], a, rest)
    | some (.key :: rest) =>
      match parseFlowPair? fuel a rest with
      | none => none
      | some (v, a, rest) => (parseFlowItems? fuel false a rest).map fun r => (v :: r.1, r.2)
    | some rest =>
      match parseNode? fuel false false a rest with
      | none => none
      | some (v, a, rest) => (parseFlowItems? fuel false a rest).map fun r => (v :: r.1, r.2)

/-- Reads a mapping of one entry after the mark of its key. If the key is left out, so is the token
that shows it. -/
def parseFlowPair? (fuel : Nat) (a : Anchors) (ts : List Token) : Parsed Node :=
  match fuel with
  | 0 => none
  | fuel + 1 =>
    let key := if endsFlowKey .flowSequenceEnd ts then some (.absent, a, ts.drop 1)
      else parseNode? fuel false false a ts
    match key with
    | none => none
    | some (k, a, rest) =>
      (parseFlowValue? fuel .flowSequenceEnd a rest).map fun r => (.mapping none [(k, r.1)], r.2)

/-- Reads the value of a key inside brackets, if there is one. -/
def parseFlowValue? (fuel : Nat) (closing : Token) (a : Anchors) (ts : List Token) :
    Parsed Node :=
  match fuel with
  | 0 => none
  | fuel + 1 =>
    match ts with
    | .value :: rest =>
      if endsFlowValue closing rest then some (.absent, a, rest)
      else parseNode? fuel false false a rest
    | rest => some (.absent, a, rest)

/-- Reads the entries between braces, to the closing one. A key that is not marked as one has no
value. -/
def parseFlowEntries? (fuel : Nat) (first : Bool) (a : Anchors) (ts : List Token) :
    Parsed (List (Node × Node)) :=
  match fuel with
  | 0 => none
  | fuel + 1 =>
    let rest? : Option (List Token) :=
      match first, ts with
      | true, ts => some ts
      | false, .flowEntry :: rest => some rest
      | false, .flowMappingEnd :: rest => some (.flowMappingEnd :: rest)
      | false, _ => none
    match rest? with
    | none => none
    | some (.flowMappingEnd :: rest) => some ([], a, rest)
    | some (.key :: rest) =>
      let key := if endsFlowKey .flowMappingEnd rest then some (.absent, a, rest)
        else parseNode? fuel false false a rest
      match key with
      | none => none
      | some (k, a, rest) =>
        match parseFlowValue? fuel .flowMappingEnd a rest with
        | none => none
        | some (v, a, rest) =>
          (parseFlowEntries? fuel false a rest).map fun r => ((k, v) :: r.1, r.2)
    | some rest =>
      match parseNode? fuel false false a rest with
      | none => none
      | some (k, a, rest) =>
        (parseFlowEntries? fuel false a rest).map fun r => ((k, .absent) :: r.1, r.2)

end

/-! ## Documents -/

/-- Takes the directives before a document. Each may stand once, and the version is one of two. -/
def takeDirectives? (version : Bool) (a : Anchors) : List Token → Option (Anchors × List Token)
  | .directive (.version major minor) :: rest =>
    if version || major != 1 || !(minor == 1 || minor == 2) then none
    else takeDirectives? true a rest
  | .directive (.handle handle expansion) :: rest =>
    if (a.handles.map Prod.fst).contains handle then none
    else takeDirectives? version { a with handles := (handle, expansion) :: a.handles } rest
  | rest => some (a, rest)

/-- Whether a document whose start is marked has no content. -/
def endsDocument : List Token → Bool
  | [] | .directive _ :: _ | .documentStart :: _ | .documentEnd :: _ => true
  | _ => false

/-- The document that the tokens are; of no tokens, an absent value. Further marks of its end may
follow it, and nothing else. -/
def Node.ofTokens? (ts : List Token) : Option Node := do
  let fuel := 4 * ts.length + 8
  let (node, _, rest) ←
    match ts with
    | [] => some (Node.absent, {}, [])
    | .directive _ :: _ | .documentStart :: _ => do
      let (a, rest) ← takeDirectives? false {} ts
      match rest with
      | .documentStart :: rest =>
        if endsDocument rest then some (Node.absent, a, rest)
        else parseNode? fuel true false a rest
      | _ => none
    | _ => parseNode? fuel true false {} ts
  if rest.all (· == .documentEnd) then return node else none

/-- The document that a text holds. -/
def Node.read? (text : List Char) : Option Node := (Token.scan? text).bind Node.ofTokens?

end LineCensus.Yaml
