import CatalogGateway.Proofs.Types.Equivalence

/-!
# Round trips of types

A type that a mapping takes comes back from the engine in its normal form, whatever it nests.
The normal form is equivalent to the type, and the mapping takes it to the same engine type, so
that a second round trip changes nothing.
-/

namespace CatalogGateway

namespace TypeMapping

variable {mapping : TypeMapping} {precision : UInt8} {type : DataType} {engine : EngineType}

theorem scalarToEngine?_normalized (precision : UInt8) (type : DataType) :
    scalarToEngine? precision type.normalized = scalarToEngine? precision type := by
  cases type with
  | timestamp withTimeZone => cases withTimeZone <;> rfl
  | _ => rfl

theorem scalarToEngine_normalized (mapped : mapping.scalarToEngine type = .ok engine) :
    mapping.scalarToEngine type.normalized = .ok engine := by
  obtain ⟨accepted, scalar⟩ := scalarToEngine_eq_ok_iff.mp mapped
  have sameScalar := (scalarToEngine?_normalized _ type).trans scalar
  exact scalarToEngine_eq_ok_iff.mpr ⟨verdict_normalized accepted, sameScalar⟩

theorem toEngine_of_scalar {scalar : EngineType}
    (mapped : mapping.scalarToEngine type = .ok scalar) :
    mapping.toEngine type = .ok scalar := by
  cases type with
  | list _ _ | map _ _ _ | struct _ => cases mapping <;> cases mapped
  | _ => simpa only [toEngine] using mapped

end TypeMapping

mutual

/-- A mapping takes the normal form of a type to the same engine type. -/
theorem TypeMapping.toEngine_normalized {mapping : TypeMapping} :
    ∀ {type : DataType} {engine : EngineType}, mapping.toEngine type = .ok engine →
      mapping.toEngine type.normalized = .ok engine
  | .list element _, engine, mapped => by
      rw [toEngine] at mapped
      obtain ⟨first, elementMapped, same⟩ := Outcome.bind_eq_ok_iff.mp mapped
      cases same
      rw [DataType.normalized, toEngine, toEngine_normalized elementMapped]
      rfl
  | .map key value _, engine, mapped => by
      rw [toEngine] at mapped
      obtain ⟨first, keyMapped, mapped⟩ := Outcome.bind_eq_ok_iff.mp mapped
      obtain ⟨second, valueMapped, same⟩ := Outcome.bind_eq_ok_iff.mp mapped
      cases same
      rw [DataType.normalized, toEngine, toEngine_normalized keyMapped,
        toEngine_normalized valueMapped]
      rfl
  | .struct fields, engine, mapped => by
      rw [toEngine] at mapped
      obtain ⟨row, fieldsMapped, same⟩ := Outcome.bind_eq_ok_iff.mp mapped
      cases same
      rw [DataType.normalized, toEngine, toRowFields_normalized fieldsMapped]
      rfl
  | .boolean, _, mapped | .byte, _, mapped | .short, _, mapped | .integer, _, mapped
  | .long, _, mapped | .float, _, mapped | .double, _, mapped | .date, _, mapped
  | .time, _, mapped | .intervalYear, _, mapped | .intervalDay, _, mapped | .string, _, mapped
  | .binary, _, mapped | .uuid, _, mapped | .null, _, mapped | .decimal _ _, _, mapped
  | .timestamp _, _, mapped | .varchar _, _, mapped | .fixedChar _, _, mapped
  | .fixed _, _, mapped =>
      toEngine_of_scalar (scalarToEngine_normalized mapped)

theorem TypeMapping.toRowFields_normalized {mapping : TypeMapping} :
    ∀ {fields : DataFields} {engine : RowFields}, mapping.toRowFields fields = .ok engine →
      mapping.toRowFields fields.normalized = .ok engine
  | .nil, _, mapped => mapped
  | .cons name type _ _ rest, engine, mapped => by
      rw [toRowFields] at mapped
      obtain ⟨first, typeMapped, mapped⟩ := Outcome.bind_eq_ok_iff.mp mapped
      obtain ⟨others, restMapped, same⟩ := Outcome.bind_eq_ok_iff.mp mapped
      cases same
      rw [DataFields.normalized, toRowFields, toEngine_normalized typeMapped,
        toRowFields_normalized restMapped]
      rfl

end

namespace TypeMapping

/-- A type that a mapping takes comes back in its normal form, which is equivalent to the type
in both directions and goes to the same engine type. -/
theorem roundTrip_of_toEngine {mapping : TypeMapping} {type : DataType} {engine : EngineType}
    (mapped : mapping.toEngine type = .ok engine) :
    mapping.toGeneric engine = .ok type.normalized ∧
      type.normalized.isEquivalent type = true ∧ type.isEquivalent type.normalized = true ∧
      mapping.toEngine type.normalized = .ok engine := by
  have equivalent := DataType.isEquivalent_normalized type
  have reverse : type.normalized.isEquivalent type = true :=
    (DataType.isEquivalent_comm _ _).trans equivalent
  exact ⟨toGeneric_of_toEngine mapped, reverse, equivalent, toEngine_normalized mapped⟩

/-- A list of maps from times to structs of fixed bytes, none of it nullable, with a comment. -/
def sampleType : DataType :=
  .list (.map .time (.struct (.cons "digest" (.fixed 32) false (some "of the row") .nil)) false)
    false

/-- The sample as an engine stores it. -/
def sampleEngineType : EngineType :=
  .array (.map (.time 6) (.row (.cons (some "digest") .varbinary .nil)))

/-- The sample as it comes back from the engine. -/
def sampleNormalForm : DataType :=
  .list (.map .time (.struct (.cons "digest" .binary true none .nil)) true) true

/-- In iceberg the sample comes back nullable throughout, without the comment and with bytes of
any number. -/
theorem roundTrip_sampleType :
    TypeMapping.iceberg.toEngine sampleType = .ok sampleEngineType ∧
    TypeMapping.iceberg.toGeneric sampleEngineType = .ok sampleNormalForm ∧
    sampleNormalForm.isEquivalent sampleType = true ∧
    sampleType.isEquivalent sampleNormalForm = true ∧
    TypeMapping.iceberg.toEngine sampleNormalForm = .ok sampleEngineType := by
  have mapped : TypeMapping.iceberg.toEngine sampleType = .ok sampleEngineType := rfl
  exact ⟨mapped, roundTrip_of_toEngine mapped⟩

end TypeMapping

end CatalogGateway
