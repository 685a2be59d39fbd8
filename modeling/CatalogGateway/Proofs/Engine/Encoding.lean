import CatalogGateway.Engine.Table
import CatalogGateway.Proofs.Json.Reading

/-!
# Encodings of stored values

The types and properties that an engine stores are read back from their encodings.
Properties nest three levels deep at most, types as deep as they are built.
-/

namespace CatalogGateway

namespace EngineType

@[simp]
theorem precisionOfJson?_object (precision : UInt8) :
    precisionOfJson? (.object [("precision", .natural precision.toNat)]) = some precision := by
  simp [precisionOfJson?]

theorem uint32?_optional (length : Option UInt32) :
    (Json.optional (fun bound : UInt32 => .natural bound.toNat) length).optional? Json.uint32? =
      some length :=
  Json.optional?_optional Json.uint32?_natural nofun length

end EngineType

mutual

/-- A type is read back from its encoding. -/
theorem EngineType.ofJson?_toJson :
    ∀ type : EngineType, EngineType.ofJson? type.toJson = some type
  | .array element => by
      simp [EngineType.toJson, Json.variant, EngineType.ofJson?, EngineType.ofJson?_toJson element]
  | .map key value => by
      simp [EngineType.toJson, Json.variant, EngineType.ofJson?, EngineType.ofJson?_toJson key,
        EngineType.ofJson?_toJson value]
  | .row fields => by
      simp [EngineType.toJson, Json.variant, EngineType.ofJson?,
        RowFields.fieldsOfJson?_toJsons fields]
  | .varchar length => by
      simp [EngineType.toJson, Json.variant, EngineType.ofJson?, EngineType.scalarOfJson?,
        EngineType.uint32?_optional]
  | .decimal _ _ | .char _ | .time _ | .timestamp _ | .timestampWithTimeZone _ => by
      simp [EngineType.toJson, Json.variant, EngineType.ofJson?, EngineType.scalarOfJson?]
  | .boolean | .tinyInt | .smallInt | .integer | .bigInt | .real | .double | .varbinary | .date
  | .uuid => by rfl

theorem RowFields.fieldsOfJson?_toJsons :
    ∀ fields : RowFields, EngineType.fieldsOfJson? fields.toJsons = some fields
  | .nil => rfl
  | .cons name type rest => by
      simp [RowFields.toJsons, EngineType.fieldsOfJson?, EngineType.memberOfJson?,
        EngineType.ofJson?_toJson type, RowFields.fieldsOfJson?_toJsons rest]

end

namespace PropertyValue

theorem ofJson?_toJson (value : PropertyValue) : ofJson? value.toJson = some value := by
  cases value <;> simp [toJson, Json.variant, ofJson?]

theorem depth_toJson_le (value : PropertyValue) : value.toJson.depth ≤ 2 := by
  cases value with
  | array items =>
      have flat : Json.itemsDepth (items.map .string) ≤ 0 :=
        Json.itemsDepth_le (by simp [Json.depth])
      simp only [toJson, Json.variant, Json.strings, Json.list, Json.depth, Json.membersDepth]
      omega
  | string text => simp [toJson, Json.variant, Json.depth, Json.membersDepth]
  | integer value => simp [toJson, Json.variant, Json.integer, Json.depth, Json.membersDepth]
  | boolean value => simp [toJson, Json.variant, Json.depth, Json.membersDepth]

end PropertyValue

namespace EngineProperties

/-- Stored properties are read back from their encoding. -/
theorem ofJson?_toJson (properties : EngineProperties) :
    ofJson? properties.toJson = some properties :=
  Json.dictionary?_dictionary PropertyValue.ofJson?_toJson properties

theorem depth_toJson_le (properties : EngineProperties) : properties.toJson.depth ≤ 3 := by
  have members : Json.membersDepth
      (properties.entries.map fun entry => (entry.1, entry.2.toJson)) ≤ 2 :=
    Json.membersDepth_le (by
      rintro _ member
      obtain ⟨entry, _, rfl⟩ := List.mem_map.mp member
      exact entry.2.depth_toJson_le)
  simp only [toJson, Json.dictionary, Json.depth]
  omega

end EngineProperties

end CatalogGateway
