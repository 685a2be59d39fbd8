import CatalogGateway.Proofs.Properties.Stored
import CatalogGateway.Provider.Adapter

/-!
# Schemas read back

A schema is stored as properties, with its comment under a key that callers cannot use.  The
properties that are known for schemas are texts under their own names, so that what is read of a
stored schema is the schema as it was given.
-/

namespace CatalogGateway

namespace PropertyConverter

variable {converter : PropertyConverter} {properties : Properties} {stored : EngineProperties}

/-- What is known of properties leaves them as they are given. -/
structure Plain (converter : PropertyConverter) : Prop where
  named : ∀ entry ∈ converter.entries, entry.engineKey = entry.genericKey
  texts : ∀ entry ∈ converter.entries, entry.kind = .string
  bare : ∀ entry ∈ converter.entries, entry.default = none

namespace Plain

theorem storedKey_eq (plain : converter.Plain) (key : String) : converter.storedKey key = key := by
  rw [storedKey]
  cases known : converter.byGeneric? key with
  | none => rfl
  | some entry =>
      have named : entry.genericKey = key := by simpa using List.find?_some known
      rw [Option.elim_some, plain.named entry (List.mem_of_find?_eq_some known), named]

theorem storedValue_eq (plain : converter.Plain) (key text : String) :
    converter.storedValue key text = .ok (.string text) := by
  rw [storedValue]
  cases known : converter.byGeneric? key with
  | none => rfl
  | some entry =>
      exact parse_eq_ok_iff.mpr (by rw [plain.texts entry (List.mem_of_find?_eq_some known)]; rfl)

theorem not_isAlias (plain : converter.Plain) (key : String) : ¬ converter.IsAlias key := by
  rintro ⟨entry, member, rfl, different⟩
  exact different (plain.named entry member).symm

/-- Given properties are stored as texts under their keys. -/
theorem get?_toEngine (plain : converter.Plain)
    (converted : converter.toEngine properties = .ok stored) (key : String) :
    stored.get? key = (properties.get? key).map .string := by
  apply Option.ext
  intro value
  rw [Option.map_eq_some_iff]
  constructor
  · intro found
    rcases origin_of_toEngine converted found with
      ⟨given, text, present, rfl, _, valued⟩ | ⟨entry, member, text, default, _⟩
    · rw [plain.storedValue_eq, Except.ok.injEq] at valued
      exact ⟨text, by rwa [plain.storedKey_eq], valued⟩
    · rw [plain.bare entry member] at default
      cases default
  · rintro ⟨text, present, rfl⟩
    have last : ∀ other, properties.contains other = true →
        converter.storedKey other = converter.storedKey key → ¬ key < other := by
      intro other _ same above
      rw [plain.storedKey_eq, plain.storedKey_eq] at same
      exact String.lt_irrefl key (same ▸ above)
    obtain ⟨value, entered, found⟩ := get?_toEngine_of_last converted present last
    obtain ⟨_, _, valued⟩ := toEngineEntry_eq_ok_iff.mp entered
    rw [plain.storedValue_eq, Except.ok.injEq] at valued
    obtain rfl : PropertyValue.string text = value := valued
    rwa [plain.storedKey_eq] at found

theorem unreserved (plain : converter.Plain)
    (converted : converter.toEngine properties = .ok stored) {key : String}
    (given : properties.contains key = true) : converter.isReserved key = false := by
  obtain ⟨accepted, _⟩ := engineKey_eq_ok_iff.mp (engineKey_of_toEngine converted given)
  rwa [plain.storedKey_eq] at accepted

theorem toGeneric_toEngine (plain : converter.Plain) (coherent : converter.Coherent)
    (converted : converter.toEngine properties = .ok stored) :
    converter.toGeneric stored = properties := by
  apply Dictionary.ext_get?
  intro key
  apply Option.ext
  intro text
  rw [get?_toGeneric_eq_some_iff coherent (native_toEngine coherent converted),
    plain.storedKey_eq, plain.get?_toEngine converted]
  constructor
  · rintro ⟨_, value, found, _, rfl⟩
    obtain ⟨_, present, rfl⟩ := Option.map_eq_some_iff.mp found
    exact present
  · intro present
    have given := Dictionary.contains_of_get? present
    refine ⟨plain.not_isAlias key, .string text, by rw [present, Option.map_some],
      ⟨plain.unreserved converted given, fun entry known => ?_⟩, rfl⟩
    have member : entry ∈ converter.entries := List.mem_of_find?_eq_some known
    simp [PropertyEntry.conceals, plain.bare entry member]

end Plain

end PropertyConverter

namespace Provider

variable {provider : Provider} {schema : SchemaDefinition} {stored : EngineProperties}

theorem coherent_schemaConverter (provider : Provider) : provider.schemaConverter.Coherent := by
  constructor <;> cases provider <;> decide

theorem plain_schemaConverter (provider : Provider) : provider.schemaConverter.Plain := by
  constructor <;> cases provider <;> decide

theorem isReserved_schemaCommentKey :
    provider.schemaConverter.isReserved schemaCommentKey = true := by
  cases provider <;> decide

/-- A schema that was stored is read back as it was. -/
theorem parseSchema_of_buildSchema (built : provider.buildSchema schema = .ok stored) :
    provider.parseSchema schema.name stored = schema := by
  obtain ⟨kept, converted, same⟩ := Outcome.bind_eq_ok_iff.mp built
  have shown := (plain_schemaConverter provider).toGeneric_toEngine
    (coherent_schemaConverter provider) converted
  -- The comment has a key of its own, as callers cannot give a property under it.
  have free : kept.get? schemaCommentKey = none := by
    rw [(plain_schemaConverter provider).get?_toEngine converted, Option.map_eq_none_iff,
      Option.eq_none_iff_forall_ne_some]
    intro text present
    have unreserved := (plain_schemaConverter provider).unreserved converted
      (Dictionary.contains_of_get? present)
    rw [isReserved_schemaCommentKey] at unreserved
    cases unreserved
  obtain ⟨name, comment, properties⟩ := schema
  cases comment with
  | none =>
      cases same
      rw [parseSchema, free, Dictionary.erase_of_absent free, shown]
      rfl
  | some comment =>
      cases same
      rw [parseSchema, Dictionary.get?_insert_self, Dictionary.erase_insert_of_absent free, shown]
      rfl

end Provider

end CatalogGateway
