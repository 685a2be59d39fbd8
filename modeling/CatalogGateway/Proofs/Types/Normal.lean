import CatalogGateway.Proofs.Store.Outcome
import CatalogGateway.Types.Mapping

/-!
# Normal forms of types

An engine keeps neither the length of fixed bytes nor the nullability and the comments of the
parts of a type.  What comes back of a type that a mapping takes is its normal form, which is
the same for all mappings.
-/

namespace CatalogGateway

mutual

/-- A type as it comes back from an engine. -/
def DataType.normalized : DataType → DataType
  | .fixed _ => .binary
  | .list element _ => .list element.normalized true
  | .map key value _ => .map key.normalized value.normalized true
  | .struct fields => .struct fields.normalized
  | type => type

/-- The fields of a struct as they come back from an engine. -/
def DataFields.normalized : DataFields → DataFields
  | .nil => .nil
  | .cons name type _ _ rest => .cons name type.normalized true none rest.normalized

end

namespace TypeMapping

variable {mapping : TypeMapping} {precision : UInt8} {type generic : DataType}
  {engine : EngineType}

/-- The table of scalars gives the normal form back. -/
theorem scalarToGeneric?_of_scalarToEngine?
    (scalar : scalarToEngine? precision type = some engine) :
    scalarToGeneric? engine = some type.normalized := by
  cases type with
  | timestamp withTimeZone => cases withTimeZone <;> cases scalar <;> rfl
  | _ => cases scalar <;> rfl

/-- A mapping judges a scalar by the same rules in both directions. -/
theorem verdict_eq_engineVerdict (scalar : scalarToGeneric? engine = some generic) :
    mapping.verdict generic = mapping.engineVerdict engine := by
  cases engine with
  | varchar length => cases length <;> cases scalar <;> cases mapping <;> rfl
  | _ => cases scalar <;> cases mapping <;> rfl

/-- No mapping refuses the bytes that fixed bytes come back as. -/
theorem verdict_normalized (accepted : mapping.verdict type = .accepted) :
    mapping.verdict type.normalized = .accepted := by
  cases type with
  | fixed _ => cases mapping <;> rfl
  | list _ _ | map _ _ _ | struct _ => cases mapping <;> rfl
  | _ => exact accepted

theorem scalarToEngine_eq_ok_iff : mapping.scalarToEngine type = .ok engine ↔
    mapping.verdict type = .accepted ∧
      scalarToEngine? mapping.temporalPrecision type = some engine := by
  unfold scalarToEngine
  cases mapping.verdict type with
  | refused reason => simp
  | accepted => cases scalarToEngine? mapping.temporalPrecision type <;> simp

theorem scalarToGeneric_eq_ok_iff : mapping.scalarToGeneric engine = .ok generic ↔
    mapping.engineVerdict engine = .accepted ∧ scalarToGeneric? engine = some generic := by
  unfold scalarToGeneric
  cases mapping.engineVerdict engine with
  | refused reason => simp
  | accepted => cases scalarToGeneric? engine <;> simp

theorem toGeneric_of_scalar (scalar : scalarToGeneric? engine = some generic) :
    mapping.toGeneric engine = mapping.scalarToGeneric engine := by
  cases engine with
  | array _ | map _ _ | row _ => cases scalar
  | _ => simp [toGeneric]

theorem toGeneric_of_scalarToEngine (mapped : mapping.scalarToEngine type = .ok engine) :
    mapping.toGeneric engine = .ok type.normalized := by
  obtain ⟨accepted, scalar⟩ := scalarToEngine_eq_ok_iff.mp mapped
  have generic := scalarToGeneric?_of_scalarToEngine? scalar
  have taken : mapping.engineVerdict engine = .accepted :=
    (verdict_eq_engineVerdict generic).symm.trans (verdict_normalized accepted)
  rw [toGeneric_of_scalar generic]
  exact scalarToGeneric_eq_ok_iff.mpr ⟨taken, generic⟩

end TypeMapping

mutual

/-- A type that a mapping takes comes back in its normal form. -/
theorem TypeMapping.toGeneric_of_toEngine {mapping : TypeMapping} :
    ∀ {type : DataType} {engine : EngineType}, mapping.toEngine type = .ok engine →
      mapping.toGeneric engine = .ok type.normalized
  | .list element _, engine, mapped => by
      rw [toEngine] at mapped
      obtain ⟨first, elementMapped, same⟩ := Outcome.bind_eq_ok_iff.mp mapped
      cases same
      rw [toGeneric, toGeneric_of_toEngine elementMapped, DataType.normalized]
      rfl
  | .map key value _, engine, mapped => by
      rw [toEngine] at mapped
      obtain ⟨first, keyMapped, mapped⟩ := Outcome.bind_eq_ok_iff.mp mapped
      obtain ⟨second, valueMapped, same⟩ := Outcome.bind_eq_ok_iff.mp mapped
      cases same
      rw [toGeneric, toGeneric_of_toEngine keyMapped, toGeneric_of_toEngine valueMapped,
        DataType.normalized]
      rfl
  | .struct fields, engine, mapped => by
      rw [toEngine] at mapped
      obtain ⟨row, fieldsMapped, same⟩ := Outcome.bind_eq_ok_iff.mp mapped
      cases same
      rw [toGeneric, toDataFields_of_toRowFields fieldsMapped, DataType.normalized]
      rfl
  | .boolean, _, mapped | .byte, _, mapped | .short, _, mapped | .integer, _, mapped
  | .long, _, mapped | .float, _, mapped | .double, _, mapped | .date, _, mapped
  | .time, _, mapped | .intervalYear, _, mapped | .intervalDay, _, mapped | .string, _, mapped
  | .binary, _, mapped | .uuid, _, mapped | .null, _, mapped | .decimal _ _, _, mapped
  | .timestamp _, _, mapped | .varchar _, _, mapped | .fixedChar _, _, mapped
  | .fixed _, _, mapped =>
      toGeneric_of_scalarToEngine mapped

theorem TypeMapping.toDataFields_of_toRowFields {mapping : TypeMapping} {row : EngineType} :
    ∀ {fields : DataFields} {engine : RowFields}, mapping.toRowFields fields = .ok engine →
      mapping.toDataFields row engine = .ok fields.normalized
  | .nil, _, mapped => by
      cases mapped
      rfl
  | .cons name type _ _ rest, engine, mapped => by
      rw [toRowFields] at mapped
      obtain ⟨first, typeMapped, mapped⟩ := Outcome.bind_eq_ok_iff.mp mapped
      obtain ⟨others, restMapped, same⟩ := Outcome.bind_eq_ok_iff.mp mapped
      cases same
      rw [toDataFields, toGeneric_of_toEngine typeMapped, toDataFields_of_toRowFields restMapped,
        DataFields.normalized]
      rfl

end

end CatalogGateway
