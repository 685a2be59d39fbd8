import CatalogGateway.Name.Qualified
import Mathlib.Data.List.Basic

/-!
# Parts of names

A name is made of parts if there are not too many and none is empty.  What is one level down or up
from a name, and what a name is as that of a catalog, a schema or a table.
-/

namespace CatalogGateway

namespace QualifiedName

variable {name parent child : QualifiedName} {segment : String}

/-- No part of a name is empty. -/
def Filled (name : QualifiedName) : Prop :=
  ∀ part ∈ name.components, part ≠ ""

instance (name : QualifiedName) : Decidable name.Filled :=
  inferInstanceAs (Decidable (∀ part ∈ name.components, part ≠ ""))

theorem ofParts_eq_ok_iff {metalake : String} {segments : List String} {name : QualifiedName} :
    ofParts metalake segments = .ok name ↔
      name = ⟨metalake, segments⟩ ∧ segments.length ≤ maxDepth ∧ name.Filled := by
  have anyEmpty : (components ⟨metalake, segments⟩).any (·.isEmpty) = true ↔
      ¬ Filled ⟨metalake, segments⟩ := by
    simp [Filled]
  simp only [ofParts, anyEmpty]
  split
  · simp only [reduceCtorEq, false_iff, not_and]
    omega
  · split
    · rename_i notFilled
      simp only [reduceCtorEq, false_iff, not_and]
      rintro rfl _
      exact notFilled
    · rename_i shallow filled
      constructor
      · rintro ⟨rfl⟩
        exact ⟨rfl, Nat.le_of_not_lt shallow, not_not.mp filled⟩
      · rintro ⟨rfl, _⟩
        rfl

theorem exists_ofParts_eq_error_iff {metalake : String} {segments : List String} :
    (∃ fault, ofParts metalake segments = .error fault) ↔
      ¬ (segments.length ≤ maxDepth ∧ Filled ⟨metalake, segments⟩) := by
  constructor
  · rintro ⟨fault, refused⟩ accepted
    rw [ofParts_eq_ok_iff.mpr ⟨rfl, accepted⟩] at refused
    cases refused
  · intro refused
    cases made : ofParts metalake segments with
    | error fault => exact ⟨fault, rfl⟩
    | ok name =>
        obtain ⟨rfl, accepted⟩ := ofParts_eq_ok_iff.mp made
        exact absurd accepted refused

section Levels

/-- The name one level down, unchecked. -/
def below (name : QualifiedName) (segment : String) : QualifiedName :=
  ⟨name.metalake, name.segments ++ [segment]⟩

@[simp]
theorem depth_below (name : QualifiedName) (segment : String) :
    (name.below segment).depth = name.depth + 1 := by
  simp [depth, below]

@[simp]
theorem last_below (name : QualifiedName) (segment : String) :
    (name.below segment).last = segment := by
  simp [below, last, List.getLastD_eq_getLast?]

theorem parent?_eq_some_iff :
    name.parent? = some parent ↔ ∃ segment, name = parent.below segment := by
  obtain ⟨metalake, segments⟩ := name
  constructor
  · intro above
    rcases List.eq_nil_or_concat' segments with rfl | ⟨front, segment, rfl⟩
    · cases above
    · have same : parent = ⟨metalake, front⟩ := by
        rw [parent?] at above
        simpa using above.symm
      exact ⟨segment, by rw [same]; rfl⟩
  · rintro ⟨segment, same⟩
    cases same
    simp [parent?]

theorem filled_below_iff : (name.below segment).Filled ↔ name.Filled ∧ segment ≠ "" := by
  simp [Filled, components, below, or_imp, forall_and, and_assoc]

/-- A name goes down by a segment if there is room below it and no part would be empty. -/
theorem child_eq_ok_iff : name.child segment = .ok child ↔
    child = name.below segment ∧ name.depth < maxDepth ∧ name.Filled ∧ segment ≠ "" := by
  have fits : (name.segments ++ [segment]).length ≤ maxDepth ↔ name.depth < maxDepth := by
    rw [List.length_append]
    exact Iff.rfl
  rw [QualifiedName.child, ofParts_eq_ok_iff, fits]
  constructor
  · rintro ⟨rfl, shallow, filled⟩
    exact ⟨rfl, shallow, filled_below_iff.mp filled⟩
  · rintro ⟨rfl, shallow, filled⟩
    exact ⟨rfl, shallow, filled_below_iff.mpr filled⟩

/-- A name that is filled goes down by any part that is not empty. -/
theorem child_eq_ok (filled : name.Filled) (shallow : name.depth < maxDepth)
    (notEmpty : segment ≠ "") : name.child segment = .ok (name.below segment) :=
  child_eq_ok_iff.mpr ⟨rfl, shallow, filled, notEmpty⟩

end Levels

section Views

theorem require_eq_ok_iff {expected : EntityKind} :
    name.require expected = .ok () ↔ name.kind = expected := by
  rw [require]
  split
  · rename_i same
    exact iff_of_true rfl same
  · rename_i differs
    exact iff_of_false nofun differs

/-- What is asked of a name after its kind is only asked of names of this kind. -/
theorem require_bind_eq_ok_iff {α : Type} {expected : EntityKind}
    {view : Unit → Except CatalogFault α} {result : α} :
    name.require expected >>= view = .ok result ↔
      name.kind = expected ∧ view () = .ok result := by
  rw [← require_eq_ok_iff]
  cases name.require expected with
  | error fault => exact iff_of_false nofun fun both => nomatch both.1
  | ok _ => exact (and_iff_right rfl).symm

theorem asCatalog_eq_ok_iff {parts : CatalogName} :
    name.asCatalog = .ok parts ↔ name = parts.qualified := by
  obtain ⟨metalake, segments⟩ := name
  obtain ⟨_, _⟩ := parts
  rw [asCatalog, require_bind_eq_ok_iff]
  constructor
  · rintro ⟨_, viewed⟩
    split at viewed
    · rename_i same
      cases viewed
      obtain rfl : segments = _ := same
      rfl
    · cases viewed
  · rintro ⟨rfl⟩
    exact ⟨rfl, rfl⟩

theorem asSchema_eq_ok_iff {parts : SchemaName} :
    name.asSchema = .ok parts ↔ name = parts.qualified := by
  obtain ⟨metalake, segments⟩ := name
  obtain ⟨_, _, _⟩ := parts
  rw [asSchema, require_bind_eq_ok_iff]
  constructor
  · rintro ⟨_, viewed⟩
    split at viewed
    · rename_i same
      cases viewed
      obtain rfl : segments = _ := same
      rfl
    · cases viewed
  · rintro ⟨rfl⟩
    exact ⟨rfl, rfl⟩

theorem asTable_eq_ok_iff {parts : TableName} :
    name.asTable = .ok parts ↔ name = parts.qualified := by
  obtain ⟨metalake, segments⟩ := name
  obtain ⟨_, _, _, _⟩ := parts
  rw [asTable, require_bind_eq_ok_iff]
  constructor
  · rintro ⟨_, viewed⟩
    split at viewed
    · rename_i same
      cases viewed
      obtain rfl : segments = _ := same
      rfl
    · cases viewed
  · rintro ⟨rfl⟩
    exact ⟨rfl, rfl⟩

end Views

end QualifiedName

end CatalogGateway
