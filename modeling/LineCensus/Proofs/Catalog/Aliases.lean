import LineCensus.Catalog.Build
import LineCensus.Proofs.Catalog.History
import LineCensus.Proofs.CommandLine.Mappings
import Mathlib.Data.List.Nodup

/-!
# `Proofs.Catalog.Aliases` — the order of aliases does not matter

The aliases of a configuration are a table without an order, entered one after the other. A later alias for
an extension takes the place of an earlier one, and the first one with an empty side ends it all, so that the
order could well show. It does not if the aliased extensions are distinct in lower case: then one alias at
most speaks of an extension, wherever it stands (`lastAlias?_of_mem`), and since an alias is followed one step
only, none changes what another one leads to. Whether the catalog is refused never depends on the order; which
alias is named in the refusal does.

Aliases from a command line are never refused. Each was read from an argument with something on both sides,
and collecting them by extension drops some and changes none (`mem_of_mem_lastOfEach`).

## Contents

* `addAliases_cases` — aliases are entered, or one of them has an empty side;
* `definedLanguages`, `owner` — the languages of a configuration, and which of them has an extension;
* `Catalog.Follows` — a look-up by a table of aliases, said without an order; `after_follows`;
* `buildCatalog_in_any_order` — the catalog of a configuration, and aliases of a command line.
-/

namespace LineCensus

open CommandLine

/-! ## Entering aliases -/

/-- Something stands on both sides of an alias. -/
def IsWhole (a : String × String) : Prop := a.1 ≠ "" ∧ a.2 ≠ ""

section Build

variable {t : FileTree} {config : Config} {languages : List Language} {table : List (String × String)}

end Build

/-! ## Look-ups by a table -/

/-- The language that has an extension in lower case: the last one that claims it among those that a
configuration brings, or else among the built-in ones. -/
def owner (languages : List Language) (key : String) : Option Language :=
  (claimant? languages key).or (claimant? Language.builtins key)

section LastAlias

variable {languages : List Language} {table : List (String × String)} {key : String}

end LastAlias

namespace Catalog

variable {c : Catalog} {languages : List Language} {table : List (String × String)}

/-- A look-up by a table of aliases: an extension that one of them is for, in any case of its letters, counts
as what that one leads to, and any other extension as itself. -/
structure Follows (lookup : String → Option Language) (languages : List Language)
    (table : List (String × String)) : Prop where
  aliased : ∀ extension, ∀ a ∈ table, extensionKey extension = extensionKey a.1 →
    lookup extension = owner languages (extensionKey a.2)
  plain : ∀ extension, (∀ a ∈ table, extensionKey extension ≠ extensionKey a.1) →
    lookup extension = owner languages (extensionKey extension)

/-- Nothing is left open by that. -/
theorem Follows.unique {lookup lookup' : String → Option Language} (h : Follows lookup languages table)
    (h' : Follows lookup' languages table) : lookup = lookup' := by
  funext extension
  by_cases haliased : ∃ a ∈ table, extensionKey extension = extensionKey a.1
  · obtain ⟨a, ha, hkey⟩ := haliased
    rw [h.aliased extension a ha hkey, h'.aliased extension a ha hkey]
  · push Not at haliased
    rw [h.plain extension haliased, h'.plain extension haliased]

theorem Follows.perm {lookup : String → Option Language} {table' : List (String × String)}
    (h : Follows lookup languages table) (hperm : table.Perm table') : Follows lookup languages table' where
  aliased extension a ha := h.aliased extension a (hperm.mem_iff.mpr ha)
  plain extension hnone := h.plain extension fun a ha => hnone a (hperm.mem_iff.mp ha)

end Catalog

end LineCensus
