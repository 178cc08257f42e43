import LineCensus.Definition.Json
import LineCensus.Proofs.Json.RoundTrip
import LineCensus.Proofs.Traversal
import Mathlib.Data.List.Nodup
import Mathlib.Data.List.Perm.Basic

/-!
# `Proofs.Json.Fields` — objects read by the names of their members

A record is read from an object in two steps: the members with the names of fields are picked out, and then
each field is looked up. The first step fails if a name has no text or that of a field stands twice
(`Definition.Readable`), so that a look-up has one answer and does not depend on the order of the members.

Two objects are therefore read alike if they differ by the order of their members, by members that are no
fields, by fields that have the values of their defaults, and by what the readers of the fields make no
difference of (`Definition.Respelling`). Which fields have a default, and what makes no difference inside a
field, is the shape of the record: it is all that has to be said of a record for the law to hold of it
(`Definition.Respelling.bind_fieldsOf?`).

## Contents

* `lookup_of_mem`, `lookup_perm` — look-ups in a list without repeated names;
* `listOf?_map`, `listOf?_eq_none` — lists read one by one;
* `Definition.known`, `Definition.Readable`, `Definition.fieldsOf?_of_readable` — the fields of an object;
* `Definition.required?_cons`, `Definition.fieldsOf?_ofMembers` — records with all their fields;
* `Definition.Lacks`, `Definition.Lacks.required?` — a field that is missing;
* `Definition.Shape`, `Definition.Respelling` — a record, and the changes to an object that it allows;
* `Definition.SameField`, `Definition.Respelling.bind_fieldsOf?` — it is read alike;
* `Definition.InArray` — a change to one object of an array.
-/

namespace LineCensus

/-! ## Look-ups -/

section Lookup

variable {α : Type} {name other : String} {a : α} {l l' : List (String × α)}

theorem lookup_cons_ite : ((other, a) :: l).lookup name = if name = other then some a else l.lookup name := by
  by_cases h : name = other
  · rw [if_pos h, h, List.lookup_cons_self]
  · rw [if_neg h, List.lookup_cons, beq_false_of_ne h]

theorem lookup_of_mem (h : (name, a) ∈ l) (hnodup : (l.map Prod.fst).Nodup) : l.lookup name = some a := by
  obtain ⟨before, after, rfl⟩ := List.append_of_mem h
  refine List.lookup_eq_some_iff.mpr ⟨before, after, rfl, fun p hp => ?_⟩
  rw [List.map_append, List.map_cons] at hnodup
  have hne := (List.nodup_append.mp hnodup).2.2 p.1 (List.mem_map_of_mem hp) name List.mem_cons_self
  simpa using hne.symm

/-- **Without repeated names, a look-up does not depend on the order.** -/
theorem lookup_perm (h : l.Perm l') (hnodup : (l.map Prod.fst).Nodup) : l.lookup name = l'.lookup name := by
  have hnodup' : (l'.map Prod.fst).Nodup := (h.map Prod.fst).nodup_iff.mp hnodup
  cases hl : l'.lookup name with
  | none =>
    rw [List.lookup_eq_none_iff] at hl ⊢
    exact fun p hp => hl p (h.mem_iff.mp hp)
  | some a =>
    obtain ⟨before, after, rfl, -⟩ := List.lookup_eq_some_iff.mp hl
    exact lookup_of_mem (h.mem_iff.mpr (by simp)) hnodup

end Lookup

/-! ## Lists -/

section Lists

variable {α : Type} {read : Json → Option α}

/-- What is written one by one is read one by one. -/
theorem listOf?_map {write : α → Json} {l : List α} (h : ∀ a ∈ l, read (write a) = some a) :
    Json.listOf? read (.array (l.map write)) = some l := by
  have hread : l.mapM (read ∘ write) = some (l.map id) := mapM_eq_some_map h
  rw [Json.listOf?, List.mapM_map, hread, List.map_id]

/-- One element that cannot be read is enough for the list not to be read. -/
theorem listOf?_eq_none {elements : List Json} {v : Json} (hv : v ∈ elements) (hread : read v = none) :
    Json.listOf? read (.array elements) = none :=
  mapM_eq_none_iff.mpr ⟨v, hv, hread⟩

end Lists

namespace Definition

/-! ## The fields of an object -/

section Fields

variable {α : Type} {names : List String} {members members' : List Json.Member} {name : String} {v : Json}
  {read : Json → Option α}

/-- The members with these names, in order. -/
def known (names : List String) (members : List Json.Member) : List (String × Json) :=
  (members.filterMap fun m => m.1.map fun name => (String.ofList name, m.2)).filter fun m => names.contains m.1

/-- All names have texts, and none of these names stands twice. -/
def Readable (names : List String) (members : List Json.Member) : Prop :=
  (∀ m ∈ members, m.1.isSome = true) ∧ ((known names members).map Prod.fst).Nodup

theorem fieldsOf?_of_readable (h : Readable names members) :
    fieldsOf? names (.object members) = some (known names members) := by
  obtain ⟨htexts, hnodup⟩ := h
  simp only [fieldsOf?, mapM_eq_ite, Option.isSome_map]
  rw [if_pos htexts, Option.bind_eq_bind, Option.bind_some]
  exact if_pos hnodup

theorem fieldsOf?_of_not_readable (h : ¬ Readable names members) :
    fieldsOf? names (.object members) = none := by
  simp only [fieldsOf?, mapM_eq_ite, Option.isSome_map]
  split
  · next htexts =>
    rw [Option.bind_eq_bind, Option.bind_some]
    exact if_neg fun hnodup => h ⟨htexts, hnodup⟩
  · rfl

@[simp] theorem known_cons_text :
    known names ((some name.toList, v) :: members) =
      if name ∈ names then (name, v) :: known names members else known names members := by
  simp [known, List.filter_cons]

theorem mem_known_iff :
    (name, v) ∈ known names members ↔ name ∈ names ∧ (some name.toList, v) ∈ members := by
  simp only [known, List.mem_filter, List.mem_filterMap, List.contains_iff_mem]
  constructor
  · rintro ⟨⟨⟨text, w⟩, hm, hname⟩, hknown⟩
    obtain ⟨text, rfl, heq⟩ := Option.map_eq_some_iff.mp hname
    obtain ⟨rfl, rfl⟩ := Prod.mk.inj heq
    exact ⟨hknown, by rwa [String.toList_ofList]⟩
  · rintro ⟨hknown, hm⟩
    exact ⟨⟨_, hm, by simp⟩, hknown⟩

theorem known_perm (h : members.Perm members') : (known names members).Perm (known names members') :=
  (h.filterMap _).filter _

theorem Readable.perm (h : Readable names members) (hperm : members.Perm members') : Readable names members' :=
  ⟨fun m hm => h.1 m (hperm.mem_iff.mpr hm), ((known_perm hperm).map Prod.fst).nodup_iff.mp h.2⟩

/-- A field is found under its name. -/
theorem Readable.lookup_of_mem (h : Readable names members) (hname : name ∈ names)
    (hmem : (some name.toList, v) ∈ members) : (known names members).lookup name = some v :=
  LineCensus.lookup_of_mem (mem_known_iff.mpr ⟨hname, hmem⟩) h.2

theorem required?_cons {other : String} {fields : List (String × Json)} :
    required? ((other, v) :: fields) name read =
      if name = other then read v else required? fields name read := by
  unfold required?
  rw [lookup_cons_ite]
  split <;> rfl

theorem defaulted?_cons {other : String} {fields : List (String × Json)} {default : α} :
    defaulted? ((other, v) :: fields) name default read =
      if name = other then read v else defaulted? fields name default read := by
  unfold defaulted?
  rw [lookup_cons_ite]
  by_cases h : name = other
  · simp only [if_pos h]
  · simp only [if_neg h]

/-- The fields of an object that has no other members are found under their names. -/
theorem fieldsOf?_ofMembers {fields : List (String × Json)} (hnodup : (fields.map Prod.fst).Nodup)
    (hnames : ∀ name ∈ fields.map Prod.fst, name ∈ names) :
    fieldsOf? names (.ofMembers fields) = some fields := by
  have hknown : known names (fields.map fun m => (some m.1.toList, m.2)) = fields := by
    induction fields with
    | nil => rfl
    | cons field fields ih =>
      rw [List.map_cons, known_cons_text, if_pos (hnames field.1 List.mem_cons_self),
        ih (List.nodup_cons.mp hnodup).2 fun name hname => hnames name (List.mem_cons_of_mem _ hname)]
  have hreadable : Readable names (fields.map fun m => (some m.1.toList, m.2)) := by
    refine ⟨fun m hm => ?_, by rwa [hknown]⟩
    obtain ⟨field, -, rfl⟩ := List.mem_map.mp hm
    rfl
  rw [Json.ofMembers, fieldsOf?_of_readable hreadable, hknown]

/-! ## Fields that are missing -/

/-- No member has this name. -/
def Lacks (members : List Json.Member) (name : String) : Prop := ∀ m ∈ members, m.1 ≠ some name.toList

theorem Lacks.lookup_known (h : Lacks members name) : (known names members).lookup name = none := by
  refine List.lookup_eq_none_iff.mpr fun p hp => bne_iff_ne.mpr ?_
  rintro rfl
  exact h _ (mem_known_iff.mp hp).2 rfl

theorem Lacks.not_mem_known (h : Lacks members name) : name ∉ (known names members).map Prod.fst := by
  intro hname
  obtain ⟨⟨_, v⟩, hmem, rfl⟩ := List.mem_map.mp hname
  exact h _ (mem_known_iff.mp hmem).2 rfl

/-- A field that must be given is not read from an object without it. -/
theorem Lacks.required? {fields : List (String × Json)} (h : Lacks members name)
    (hfields : fieldsOf? names (.object members) = some fields) : required? fields name read = none := by
  by_cases hreadable : Readable names members
  · rw [fieldsOf?_of_readable hreadable] at hfields
    rw [← Option.some.inj hfields, Definition.required?, h.lookup_known, Option.bind_none]
  · rw [fieldsOf?_of_not_readable hreadable] at hfields
    cases hfields

end Fields

/-! ## Objects written in another way -/

/-- What there is to know of a record for writing it in another way. -/
structure Shape where
  /-- The names of its fields. -/
  names : List String
  /-- The fields that may be left out, with the values that they have then. -/
  defaults : List (String × Json)
  /-- What may be changed inside the value of a field. -/
  Inside : String → Json → Json → Prop

/-- One change to the members of an object. -/
inductive Respelling (shape : Shape) : List Json.Member → List Json.Member → Prop where
  /-- The members are written in another order. -/
  | permute {members members' : List Json.Member} (h : members.Perm members') : Respelling shape members members'
  /-- A member is added that is no field, whatever its value. -/
  | unknown {name : String} (v : Json) {members : List Json.Member} (h : name ∉ shape.names) :
      Respelling shape members ((some name.toList, v) :: members)
  /-- A field is left out that has the value of its default, and its name is gone with it. -/
  | leaveOut {name : String} {v : Json} {members : List Json.Member} (h : (name, v) ∈ shape.defaults)
      (hgone : Lacks members name) : Respelling shape ((some name.toList, v) :: members) members
  /-- The value of a field is written in another way. -/
  | inside {name : String} {v v' : Json} {members : List Json.Member} (h : shape.Inside name v v') :
      Respelling shape ((some name.toList, v) :: members) ((some name.toList, v') :: members)

/-- What is found under the name of a field before a change and after it. -/
inductive SameField (shape : Shape) (name : String) : Option Json → Option Json → Prop where
  | same (field : Option Json) : SameField shape name field field
  | leftOut {v : Json} (h : (name, v) ∈ shape.defaults) : SameField shape name (some v) none
  | inside {v v' : Json} (h : shape.Inside name v v') : SameField shape name (some v) (some v')

section Respelling

variable {α : Type} {shape : Shape} {members members' : List Json.Member} {name : String}
  {fields fields' : List (String × Json)} {read : Json → Option α}

/-- A required field is read alike if its reader makes no difference of what changes inside it. -/
theorem required?_congr (h : SameField shape name (fields.lookup name) (fields'.lookup name))
    (hdefault : ∀ v, (name, v) ∉ shape.defaults) (hread : ∀ v v', shape.Inside name v v' → read v = read v') :
    required? fields name read = required? fields' name read := by
  rw [required?, required?]
  generalize fields.lookup name = field at h
  generalize fields'.lookup name = field' at h
  cases h with
  | same field => rfl
  | leftOut h => exact absurd h (hdefault _)
  | inside h => exact hread _ _ h

/-- A field with a default is read alike if its reader reads the default, too. -/
theorem defaulted?_congr {default : α} (h : SameField shape name (fields.lookup name) (fields'.lookup name))
    (hdefault : ∀ v, (name, v) ∈ shape.defaults → read v = some default)
    (hread : ∀ v v', shape.Inside name v v' → read v = read v') :
    defaulted? fields name default read = defaulted? fields' name default read := by
  rw [defaulted?, defaulted?]
  generalize fields.lookup name = field at h
  generalize fields'.lookup name = field' at h
  cases h with
  | same field => rfl
  | leftOut h => exact hdefault _ h
  | inside h => exact hread _ _ h

/-- Whether the fields can be told by their names is the same before a change and after it. -/
theorem Respelling.readable_iff (h : Respelling shape members members') :
    Readable shape.names members ↔ Readable shape.names members' := by
  cases h with
  | permute h => exact ⟨fun hread => hread.perm h, fun hread => hread.perm h.symm⟩
  | unknown v h => simp [Readable, h]
  | @leaveOut name v _ h hgone =>
    by_cases hname : name ∈ shape.names
    · simp [Readable, hname, hgone.not_mem_known]
    · simp [Readable, hname]
  | @inside name v v' members h => by_cases hname : name ∈ shape.names <;> simp [Readable, hname]

/-- **What a look-up finds is the same**, but for what the shape lets change. -/
theorem Respelling.sameField (h : Respelling shape members members') (hread : Readable shape.names members)
    (name : String) :
    SameField shape name ((known shape.names members).lookup name) ((known shape.names members').lookup name) := by
  cases h with
  | permute h =>
    rw [lookup_perm (known_perm h) hread.2]
    exact .same _
  | unknown v h =>
    rw [known_cons_text, if_neg h]
    exact .same _
  | @leaveOut other v _ h hgone =>
    rw [known_cons_text]
    by_cases hother : other ∈ shape.names
    · rw [if_pos hother, lookup_cons_ite]
      by_cases hname : name = other
      · rw [if_pos hname, hname, hgone.lookup_known]
        exact .leftOut h
      · rw [if_neg hname]
        exact .same _
    · rw [if_neg hother]
      exact .same _
  | @inside other v v' members h =>
    rw [known_cons_text, known_cons_text]
    by_cases hother : other ∈ shape.names
    · rw [if_pos hother, if_pos hother, lookup_cons_ite, lookup_cons_ite]
      by_cases hname : name = other
      · rw [if_pos hname, if_pos hname, hname]
        exact .inside h
      · rw [if_neg hname, if_neg hname]
        exact .same _
    · rw [if_neg hother, if_neg hother]
      exact .same _

/-- **Objects that differ by a change are read alike** by what is made of their fields one by one. -/
theorem Respelling.bind_fieldsOf? (h : Respelling shape members members')
    {make : List (String × Json) → Option α}
    (hmake : ∀ fields fields', (∀ name, SameField shape name (fields.lookup name) (fields'.lookup name)) →
      make fields = make fields') :
    (fieldsOf? shape.names (.object members)).bind make =
      (fieldsOf? shape.names (.object members')).bind make := by
  by_cases hread : Readable shape.names members
  · rw [fieldsOf?_of_readable hread, fieldsOf?_of_readable (h.readable_iff.mp hread)]
    exact hmake _ _ (h.sameField hread)
  · rw [fieldsOf?_of_not_readable hread, fieldsOf?_of_not_readable fun hread' => hread (h.readable_iff.mpr hread')]

end Respelling

/-! ## Objects in an array -/

/-- One object of an array is changed. -/
inductive InArray (Change : List Json.Member → List Json.Member → Prop) : Json → Json → Prop where
  | object (before after : List Json) {members members' : List Json.Member} (h : Change members members') :
      InArray Change (.array (before ++ .object members :: after)) (.array (before ++ .object members' :: after))

/-- A list is read alike if the object is. -/
theorem InArray.listOf?_eq {α : Type} {Change : List Json.Member → List Json.Member → Prop} {v v' : Json}
    {read : Json → Option α} (h : InArray Change v v')
    (hread : ∀ members members', Change members members' → read (.object members) = read (.object members')) :
    Json.listOf? read v = Json.listOf? read v' := by
  cases h with
  | object before after h => simp only [Json.listOf?, List.mapM_append, List.mapM_cons, hread _ _ h]

end Definition

end LineCensus
