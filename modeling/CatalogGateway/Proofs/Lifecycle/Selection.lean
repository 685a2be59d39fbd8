import CatalogGateway.Lifecycle.Pass
import CatalogGateway.Proofs.Dictionary.Lookup

/-!
# The selection of desired catalogs

Of the catalogs that a pass is given, the relational ones are desired, each under its key.  The
first one with a key is selected, and each later one is a fault.
-/

namespace CatalogGateway

namespace CatalogNaming

variable {naming : CatalogNaming} {catalogs : List CatalogDefinition} {key : String}

/-- The keys of the relational catalogs, in the order of the catalogs. -/
def relationalKeys (naming : CatalogNaming) (catalogs : List CatalogDefinition) : List String :=
  (catalogs.filter fun catalog => catalog.catalogType = .relational).map naming.keyOf

/-- The first relational catalog with a key. -/
def first? (naming : CatalogNaming) (catalogs : List CatalogDefinition) (key : String) :
    Option CatalogDefinition :=
  catalogs.find? fun catalog => catalog.catalogType = .relational ∧ naming.keyOf catalog = key

/-- The keys that come after an equal one, or after one that was seen before. -/
def repeatedKeys (seen : List String) : List String → List String
  | [] => []
  | key :: rest =>
    if key ∈ seen then key :: repeatedKeys seen rest else repeatedKeys (key :: seen) rest

/-- The keys of the relational catalogs that come after another one with the same key. -/
def laterKeys (naming : CatalogNaming) (catalogs : List CatalogDefinition) : List String :=
  repeatedKeys [] (naming.relationalKeys catalogs)

theorem mem_relationalKeys_iff : key ∈ naming.relationalKeys catalogs ↔
    ∃ catalog ∈ catalogs, catalog.catalogType = .relational ∧ naming.keyOf catalog = key := by
  simp [relationalKeys, and_assoc]

theorem first?_eq_none_iff :
    naming.first? catalogs key = none ↔ key ∉ naming.relationalKeys catalogs := by
  simp [first?, mem_relationalKeys_iff]

theorem of_first?_eq_some {catalog : CatalogDefinition}
    (first : naming.first? catalogs key = some catalog) :
    catalog ∈ catalogs ∧ catalog.catalogType = .relational ∧ naming.keyOf catalog = key :=
  ⟨List.mem_of_find?_eq_some first, by simpa using List.find?_some first⟩

theorem relationalKeys_cons (catalog : CatalogDefinition) (rest : List CatalogDefinition) :
    naming.relationalKeys (catalog :: rest) =
      if catalog.catalogType = .relational then
        naming.keyOf catalog :: naming.relationalKeys rest
      else naming.relationalKeys rest := by
  by_cases relational : catalog.catalogType = .relational <;> simp [relationalKeys, relational]

theorem first?_cons (catalog : CatalogDefinition) (rest : List CatalogDefinition) :
    naming.first? (catalog :: rest) key =
      if catalog.catalogType = .relational ∧ naming.keyOf catalog = key then some catalog
      else naming.first? rest key := by
  rw [first?, List.find?_cons]
  split <;> simp_all [first?]

theorem mem_repeatedKeys {seen keys : List String} (isSeen : key ∈ seen) (member : key ∈ keys) :
    key ∈ repeatedKeys seen keys := by
  induction keys generalizing seen with
  | nil => cases member
  | cons head rest ih =>
      rw [repeatedKeys]
      split
      · rcases List.mem_cons.mp member with rfl | inRest
        · exact List.mem_cons_self
        · exact List.mem_cons_of_mem _ (ih isSeen inRest)
      · rename_i fresh
        rcases List.mem_cons.mp member with rfl | inRest
        · exact absurd isSeen fresh
        · exact ih (List.mem_cons_of_mem _ isSeen) inRest

theorem first?_eq_some_of_notMem_repeatedKeys {catalog : CatalogDefinition} {seen : List String}
    (member : catalog ∈ catalogs) (relational : catalog.catalogType = .relational)
    (notSeen : naming.keyOf catalog ∉ seen)
    (once : naming.keyOf catalog ∉ repeatedKeys seen (naming.relationalKeys catalogs)) :
    naming.first? catalogs (naming.keyOf catalog) = some catalog := by
  -- The keys of the catalogs passed so far join those seen, and the key is none of them.
  induction catalogs generalizing seen with
  | nil => cases member
  | cons head rest ih =>
      rw [first?_cons]
      rw [relationalKeys_cons] at once
      split
      · rename_i found
        rw [if_pos found.1, found.2, repeatedKeys, if_neg notSeen] at once
        rcases List.mem_cons.mp member with rfl | inRest
        · rfl
        · exact absurd (mem_repeatedKeys List.mem_cons_self
            (mem_relationalKeys_iff.mpr ⟨catalog, inRest, relational, rfl⟩)) once
      · rename_i different
        have inRest : catalog ∈ rest := by
          rcases List.mem_cons.mp member with rfl | inRest
          · exact absurd ⟨relational, rfl⟩ different
          · exact inRest
        split at once
        · rename_i headRelational
          rw [repeatedKeys] at once
          split at once
          · exact ih inRest notSeen fun repeated => once (List.mem_cons_of_mem _ repeated)
          · refine ih inRest (fun isSeen => ?_) once
            rcases List.mem_cons.mp isSeen with same | isSeen
            · exact different ⟨headRelational, same.symm⟩
            · exact notSeen isSeen
        · exact ih inRest notSeen once

/-- A relational catalog whose key no later one has is the first one with its key. -/
theorem first?_eq_some_of_notMem_laterKeys {catalog : CatalogDefinition}
    (member : catalog ∈ catalogs) (relational : catalog.catalogType = .relational)
    (notLater : naming.keyOf catalog ∉ naming.laterKeys catalogs) :
    naming.first? catalogs (naming.keyOf catalog) = some catalog :=
  first?_eq_some_of_notMem_repeatedKeys member relational List.not_mem_nil notLater

end CatalogNaming

namespace Ledger

variable {naming : CatalogNaming} {catalogs : List CatalogDefinition}

/-- The fault of a catalog that comes after another one with the same key. -/
def duplicate (key : String) : String × Fault :=
  (key, .catalog (.alreadyExists .catalog key))

/-- Selected before, or the first one with its key. -/
theorem get?_select (selected : Dictionary CatalogDefinition) (key : String) :
    (select naming catalogs selected).1.get? key =
      (selected.get? key).or (naming.first? catalogs key) := by
  induction catalogs generalizing selected with
  | nil => simp [select, CatalogNaming.first?]
  | cons catalog rest ih =>
      rw [select, CatalogNaming.first?_cons]
      by_cases relational : catalog.catalogType = .relational
      · rw [if_neg (Classical.not_not.mpr relational)]
        by_cases taken : selected.contains (naming.keyOf catalog)
        · rw [if_pos taken, ih]
          obtain ⟨present, found⟩ := Option.isSome_iff_exists.mp taken
          by_cases same : naming.keyOf catalog = key
          · rw [← same, found]
            rfl
          · rw [if_neg fun both => same both.2]
        · rw [if_neg taken, ih, Dictionary.get?_insert]
          have free : selected.get? (naming.keyOf catalog) = none := by
            simpa [Dictionary.contains] using taken
          by_cases same : key = naming.keyOf catalog
          · rw [if_pos same, if_pos ⟨relational, same.symm⟩, same, free]
            rfl
          · rw [if_neg same, if_neg fun both => same both.2.symm]
      · rw [if_pos relational, ih, if_neg fun both => relational both.1]

theorem select_faults_eq {seen : List String} (selected : Dictionary CatalogDefinition)
    (seenEq : ∀ key, selected.contains key = true ↔ key ∈ seen) :
    (select naming catalogs selected).2 =
      (CatalogNaming.repeatedKeys seen (naming.relationalKeys catalogs)).map duplicate := by
  induction catalogs generalizing seen selected with
  | nil => rfl
  | cons catalog rest ih =>
      rw [select, CatalogNaming.relationalKeys_cons]
      by_cases relational : catalog.catalogType = .relational
      · rw [if_neg (Classical.not_not.mpr relational), if_pos relational,
          CatalogNaming.repeatedKeys]
        by_cases taken : selected.contains (naming.keyOf catalog) = true
        · rw [if_pos taken, if_pos ((seenEq _).mp taken), List.map_cons, ← ih selected seenEq]
          rfl
        · rw [if_neg taken, if_neg fun isSeen => taken ((seenEq _).mpr isSeen)]
          refine ih _ fun key => ?_
          rw [Dictionary.contains_insert, Bool.or_eq_true, decide_eq_true_iff, seenEq,
            List.mem_cons]
      · rw [if_pos relational, if_neg relational]
        exact ih selected seenEq

/-- Each catalog after another one with the same key is a fault, and nothing else is. -/
theorem select_faults (naming : CatalogNaming) (catalogs : List CatalogDefinition) :
    (select naming catalogs .empty).2 = (naming.laterKeys catalogs).map duplicate :=
  select_faults_eq .empty fun _ => iff_of_false Bool.noConfusion List.not_mem_nil

theorem get?_desired (key : String) :
    (select naming catalogs .empty).1.get? key = naming.first? catalogs key := by
  rw [get?_select, Dictionary.get?_empty, Option.none_or]

theorem contains_desired_iff {key : String} :
    (select naming catalogs .empty).1.contains key = true ↔
      key ∈ naming.relationalKeys catalogs := by
  rw [Dictionary.contains, get?_desired, Option.isSome_iff_ne_none, ne_eq,
    CatalogNaming.first?_eq_none_iff, Classical.not_not]

end Ledger

end CatalogGateway
