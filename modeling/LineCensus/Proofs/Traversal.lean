import Mathlib.Data.List.Forall2

/-!
# `Proofs.Traversal` — passing over a list until something fails

A computation that may fail is made for each member of a list, in order. The first failure is the end of it,
and without one there is a result for each member.

## Contents

* `exists_of_bind_eq_ok`, `bind_eq_error_iff`, `exists_of_map_eq_ok` — one computation after another;
* `mapM_eq_ok_iff`, `ok_of_mapM_eq_ok` — nothing fails;
* `mapM_eq_error_iff`, `exists_of_mapM_eq_error` — something does, and it is the first;
* `mapM_eq_some_map`, `mapM_eq_none_iff`, `mapM_eq_ite` — computations that fail without a reason;
* `orFirst` — a result, or the first of the reasons against it; `mapM_eq_orFirst` — reasons collected over a
  list.
-/

namespace LineCensus

variable {α β ε : Type} {f : α → Except ε β}

/-! ## Results and failures -/

theorem exists_of_map_eq_ok {x : Except ε α} {g : α → β} {b : β} (h : x.map g = .ok b) :
    ∃ a, x = .ok a ∧ g a = b := by
  cases x with
  | error e => cases h
  | ok a => exact ⟨a, rfl, Except.ok.inj h⟩

/-- A computation that has a result succeeds with it. -/
theorem eq_ok_get {x : Except ε α} (h : x.toOption.isSome = true) : x = .ok (x.toOption.get h) := by
  cases x with
  | error e => cases h
  | ok a => rfl

/-- Passing over a list succeeds with the results one by one. -/
theorem mapM_eq_ok_iff {l : List α} {m : List β} :
    l.mapM f = .ok m ↔ List.Forall₂ (fun a b => f a = .ok b) l m := by
  induction l generalizing m with
  | nil => simp [pure, Except.pure, eq_comm]
  | cons a l ih =>
    rw [List.mapM_cons, List.forall₂_cons_left_iff]
    cases ha : f a with
    | error e => simp [bind, Except.bind]
    | ok b =>
      cases hl : l.mapM f with
      | error e => simp [bind, Except.bind, ← ih, hl]
      | ok bs => simp [bind, Except.bind, pure, Except.pure, ← ih, hl, eq_comm]

/-- Passing over a list succeeds only if each member does. -/
theorem ok_of_mapM_eq_ok {l : List α} {m : List β} (h : l.mapM f = .ok m) {a : α} (hmem : a ∈ l) :
    ∃ b, f a = .ok b := by
  have hall : List.Forall₂ (fun a b => f a = .ok b) l m := mapM_eq_ok_iff.mp h
  induction hall with
  | nil => cases hmem
  | cons hhead htail ih =>
    rcases List.mem_cons.mp hmem with rfl | hmem
    · exact ⟨_, hhead⟩
    · exact ih (mapM_eq_ok_iff.mpr htail) hmem

/-- A list fails with its first member, or after it. -/
theorem mapM_cons_eq_error_iff {a : α} {l : List α} {e : ε} :
    (a :: l).mapM f = .error e ↔ f a = .error e ∨ (∃ r, f a = .ok r) ∧ l.mapM f = .error e := by
  rw [List.mapM_cons]
  cases f a with
  | error e' => simp [bind, Except.bind]
  | ok r => cases l.mapM f <;> simp [bind, Except.bind, pure, Except.pure]

/-- **Passing over a list fails with its first failure**: all members before the one that fails succeed. -/
theorem mapM_eq_error_iff {l : List α} {e : ε} :
    l.mapM f = .error e ↔
      ∃ before a after, l = before ++ a :: after ∧ (∀ b ∈ before, ∃ r, f b = .ok r) ∧
        f a = .error e := by
  induction l with
  | nil => simp [pure, Except.pure]
  | cons a l ih =>
    rw [mapM_cons_eq_error_iff, ih]
    constructor
    · rintro (ha | ⟨ha, before, a', after, rfl, hbefore, ha'⟩)
      · exact ⟨[], a, l, rfl, by simp, ha⟩
      · exact ⟨a :: before, a', after, rfl, List.forall_mem_cons.mpr ⟨ha, hbefore⟩, ha'⟩
    · rintro ⟨before, a', after, hl, hbefore, ha'⟩
      cases before with
      | nil =>
        obtain ⟨rfl, rfl⟩ := List.cons.inj hl
        exact .inl ha'
      | cons b before =>
        obtain ⟨rfl, rfl⟩ := List.cons.inj hl
        obtain ⟨ha, hbefore⟩ := List.forall_mem_cons.mp hbefore
        exact .inr ⟨ha, before, a', after, rfl, hbefore, ha'⟩

/-- Passing over a list fails with the failure of one of its members. -/
theorem exists_of_mapM_eq_error {l : List α} {e : ε} (h : l.mapM f = .error e) :
    ∃ a ∈ l, f a = .error e := by
  obtain ⟨before, a, after, rfl, -, ha⟩ := mapM_eq_error_iff.mp h
  exact ⟨a, by simp, ha⟩

/-! ## Failures without a reason -/

theorem mapM_eq_some_map {f : α → Option β} {g : α → β} {l : List α} (h : ∀ a ∈ l, f a = some (g a)) :
    l.mapM f = some (l.map g) := by
  induction l with
  | nil => rfl
  | cons a l ih =>
    obtain ⟨ha, hl⟩ := List.forall_mem_cons.mp h
    simp [ha, ih hl]

/-- A list of values is put together unless one of them is missing. -/
theorem mapM_eq_none_iff {f : α → Option β} {l : List α} : l.mapM f = none ↔ ∃ a ∈ l, f a = none := by
  induction l with
  | nil => simp
  | cons a l ih =>
    rw [List.mapM_cons]
    cases ha : f a with
    | none => simp [ha]
    | some b => cases hl : l.mapM f <;> simp_all

/-- If none is missing, they are the values that there are. -/
theorem mapM_eq_ite {f : α → Option β} {l : List α} :
    l.mapM f = if ∀ a ∈ l, (f a).isSome = true then some (l.filterMap f) else none := by
  split
  · next hall =>
    have hget : ∀ a ∈ l, ∃ b, f a = some b := fun a ha => Option.isSome_iff_exists.mp (hall a ha)
    clear hall
    induction l with
    | nil => rfl
    | cons a l ih =>
      obtain ⟨⟨b, hb⟩, hl⟩ := List.forall_mem_cons.mp hget
      rw [List.mapM_cons, ih hl, hb, List.filterMap_cons_some hb]
      rfl
  · next hall =>
    rw [mapM_eq_none_iff]
    simpa using hall

/-! ## Reasons against a result -/

/-- A result, or the first of the reasons against it. -/
def orFirst (reasons : List ε) (a : α) : Except ε α :=
  match reasons with
  | [] => .ok a
  | reason :: _ => .error reason

variable {a b : α} {reasons more : List ε}

theorem orFirst_eq_ok_iff : orFirst reasons a = .ok b ↔ reasons = [] ∧ a = b := by
  cases reasons <;> simp [orFirst]

theorem orFirst_eq_error_iff {e : ε} : orFirst reasons a = .error e ↔ reasons.head? = some e := by
  cases reasons <;> simp [orFirst]

/-- Of two computations the reasons against the first one come first. -/
theorem orFirst_bind {r : β} {k : α → Except ε β} (h : k a = orFirst more r) :
    orFirst reasons a >>= k = orFirst (reasons ++ more) r := by
  cases reasons with
  | nil => exact h
  | cons reason reasons => rfl

/-- What is made of a result without fail has the same reasons against it. -/
theorem orFirst_bind_pure {g : α → β} :
    (orFirst reasons a >>= fun a => pure (g a)) = orFirst reasons (g a) := by
  cases reasons <;> rfl

/-- **Reasons are collected over a list** in the order of its members. -/
theorem mapM_eq_orFirst {g : α → List ε} {h : α → β} (hf : ∀ a, f a = orFirst (g a) (h a))
    (l : List α) : l.mapM f = orFirst (l.flatMap g) (l.map h) := by
  induction l with
  | nil => rfl
  | cons a l ih =>
    rw [List.mapM_cons, List.flatMap_cons, List.map_cons, hf a, ih]
    exact orFirst_bind orFirst_bind_pure

end LineCensus
