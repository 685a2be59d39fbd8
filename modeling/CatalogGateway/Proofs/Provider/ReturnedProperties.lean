import CatalogGateway.Proofs.Properties.Returned
import CatalogGateway.Proofs.Provider.RoundTrip
import CatalogGateway.Proofs.Provider.Schemas

/-!
# Properties of tables and schemas that come back

Every provider gives callers back the properties that they gave for a table or a schema under
their own names, and nothing else.
-/

namespace CatalogGateway

namespace Provider

variable {provider : Provider} {converter : PropertyConverter} {properties : Properties}

theorem discreet_tableConverter (provider : Provider) : provider.tableConverter.Discreet where
  toSound := sound_tableConverter provider
  apart := by cases provider <;> decide
  hidden := by cases provider <;> decide
  usual := by cases provider <;> decide

theorem discreet_schemaConverter (provider : Provider) : provider.schemaConverter.Discreet where
  toCoherent := coherent_schemaConverter provider
  free := by cases provider <;> decide
  defaults := by cases provider <;> decide
  apart := by cases provider <;> decide
  hidden := by cases provider <;> decide
  usual := by cases provider <;> decide

/-- Properties that are given for a table or a schema, none of them under another name that the
engine has for it, are refused exactly if one of them has a reserved key or is known and does not
stand for a value.  Otherwise they come back, each known one in the usual spelling of its value,
without those that are hidden defaults, and without any other. -/
theorem returns_given (own : converter ∈ [provider.tableConverter, provider.schemaConverter])
    (noAlias : ∀ key, properties.contains key = true → ¬ converter.IsAlias key) :
    ((∃ fault, converter.toEngine properties = .error fault) ↔
      ∃ key text, properties.get? key = some text ∧ converter.Refuses key text) ∧
    ∀ stored, converter.toEngine properties = .ok stored →
      converter.Returns properties (converter.toGeneric stored) := by
  have discreet : converter.Discreet := by
    rcases List.mem_pair.mp own with rfl | rfl
    · exact discreet_tableConverter provider
    · exact discreet_schemaConverter provider
  exact ⟨PropertyConverter.toEngine_eq_error_iff discreet,
    fun _ => PropertyConverter.returns_of_toEngine discreet noAlias⟩

/-- Properties of an iceberg table in which the default format version is spelled in an unusual
way. -/
def spelledProperties : Properties :=
  .ofList [("format", "orc"), ("format-version", " +002\t"), ("owner", " etl")]

theorem returns_spelledProperties :
    iceberg.tableConverter.toEngine spelledProperties = .ok (.ofList
        [("format", .string "orc"), ("format_version", .integer 2), ("owner", .string " etl")]) ∧
      iceberg.tableConverter.Returns spelledProperties
        (.ofList [("format", "orc"), ("owner", " etl")]) ∧
      ∃ fault, iceberg.tableConverter.toEngine
        (spelledProperties.insert "format-version" "2.0") = .error fault := by
  have own : iceberg.tableConverter ∈ [iceberg.tableConverter, iceberg.schemaConverter] :=
    List.mem_cons_self
  have noAlias (text key : String)
      (given : (spelledProperties.insert "format-version" text).contains key = true) :
      ¬ iceberg.tableConverter.IsAlias key := by
    have known : key = "format-version" ∨ key ∈ spelledProperties.keys := by
      simpa [Dictionary.contains_insert, Dictionary.contains_iff] using given
    have named : ∀ key ∈ spelledProperties.keys, ¬ iceberg.tableConverter.IsAlias key := by
      decide
    rcases known with rfl | present
    · decide
    · exact named key present
  have converted : iceberg.tableConverter.toEngine spelledProperties = .ok (.ofList
      [("format", .string "orc"), ("format_version", .integer 2),
        ("owner", .string " etl")]) := by
    rfl
  obtain ⟨_, returned⟩ := returns_given own (noAlias " +002\t")
  obtain ⟨refused, _⟩ := returns_given own (noAlias "2.0")
  refine ⟨converted, returned _ converted, refused.mpr ⟨"format-version", "2.0", by rfl, .inr ?_⟩⟩
  refine ⟨iceberg.tableEntries[2], by decide, rfl, fun value stands => ?_⟩
  cases PropertyKind.read?_eq_some_iff.mpr stands

end Provider

end CatalogGateway
