import LineCensus.Decimal.Text
import LineCensus.Json

/-!
# `Outline` — a report as named fields

What a report says, before a format is chosen: both machine-readable formats write the same fields
in the same order.

## Contents

* `Outline` — texts, counts, decimals, records and lists of records;
* `Outline.toJson` — the outline as a JSON value, with `jsonDecimals` for its decimals.
-/

namespace LineCensus

/-- Named fields and what they hold. -/
inductive Outline where
  | text (s : List Char)
  | count (n : Nat)
  | decimal (b : Decimal.Binary)
  | record (fields : List (String × Outline))
  | records (items : List (List (String × Outline)))

namespace Outline

/-- Decimals in JSON are plain below `10 ^ 16`; an exponent has its sign. -/
def jsonDecimals : Decimal.Spelling := ⟨-5, 16, ['+']⟩

mutual

/-- The outline as a JSON value. -/
def toJson : Outline → Json
  | .text s => .string (some s)
  | .count n => Json.nat n
  | .decimal b => .number (jsonDecimals.write (Decimal.shortest b))
  | .record fields => .object (fieldsToJson fields)
  | .records items => .array (itemsToJson items)

/-- The fields of a record as the members of an object. -/
def fieldsToJson : List (String × Outline) → List (Option (List Char) × Json)
  | [] => []
  | field :: fields => (some field.1.toList, field.2.toJson) :: fieldsToJson fields

/-- Records as objects. -/
def itemsToJson : List (List (String × Outline)) → List Json
  | [] => []
  | item :: items => .object (fieldsToJson item) :: itemsToJson items

end

end Outline

end LineCensus
