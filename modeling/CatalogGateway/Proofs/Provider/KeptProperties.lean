import CatalogGateway.Proofs.Provider.RoundTrip
import CatalogGateway.Proofs.Provider.Schemas

/-!
# Given properties that stay

A converter keeps the properties that a caller gives if each of them has a key of its own in the
engine and is found there with its own value.  A property that is known by another name in the
engine can also be given under that name, where it is taken for an unknown one.  When it is given
under both names, one key is left for the two, and the value of the later name stays.
-/

namespace CatalogGateway

namespace PropertyConverter

variable {converter : PropertyConverter} {properties : Properties} {stored : EngineProperties}
  {key text : String}

/-- A given property is found under its key in the engine, with the value that it has by
itself. -/
def Finds (converter : PropertyConverter) (stored : EngineProperties) (key text : String) :
    Prop :=
  ∃ engine value, converter.engineKey key = .ok engine ∧
    converter.toEngineEntry key text = .ok (engine, value) ∧ stored.get? engine = some value

/-- What is stored has a key of its own for each given property, and finds all of them. -/
structure Keeps (converter : PropertyConverter) (properties : Properties)
    (stored : EngineProperties) : Prop where
  separate : ∀ first second, properties.contains first = true →
    properties.contains second = true → first ≠ second →
    converter.engineKey first ≠ converter.engineKey second
  found : ∀ key text, properties.get? key = some text → converter.Finds stored key text

/-- A property is given under the callers' name and under the engine's other name for it. -/
def GivenTwice (converter : PropertyConverter) (properties : Properties) : Prop :=
  ∃ entry ∈ converter.entries, entry.genericKey ≠ entry.engineKey ∧
    properties.contains entry.genericKey = true ∧ properties.contains entry.engineKey = true

theorem finds_of_last (converted : converter.toEngine properties = .ok stored)
    (given : properties.get? key = some text)
    (last : ∀ other, properties.contains other = true →
      converter.storedKey other = converter.storedKey key → ¬ key < other) :
    converter.Finds stored key text := by
  obtain ⟨value, entered, found⟩ := get?_toEngine_of_last converted given last
  have isGiven := Dictionary.contains_of_get? given
  exact ⟨_, value, engineKey_of_toEngine converted isGiven, entered, found⟩

/-- Two keys that are stored as one are the two names of a known property. -/
theorem exists_entry_of_storedKey_eq {first second : String} (coherent : converter.Coherent)
    (same : converter.storedKey first = converter.storedKey second) (different : first ≠ second) :
    ∃ entry ∈ converter.entries, entry.genericKey ≠ entry.engineKey ∧
      (first = entry.genericKey ∧ second = entry.engineKey ∨
        first = entry.engineKey ∧ second = entry.genericKey) := by
  -- A name is stored as it is unless callers know a property by it.
  have known (name : String) : converter.storedKey name = name ∨
      ∃ entry ∈ converter.entries, entry.genericKey = name ∧
        converter.storedKey name = entry.engineKey := by
    cases found : converter.byGeneric? name with
    | none => exact .inl (by rw [storedKey, found, Option.elim_none])
    | some entry =>
        obtain ⟨member, named⟩ := (byGeneric?_eq_some_iff coherent).mp found
        exact .inr ⟨entry, member, named, by rw [storedKey, found, Option.elim_some]⟩
  rcases known first with unknown | ⟨entry, member, rfl, stored⟩
  · rcases known second with secondUnknown | ⟨entry, member, rfl, stored⟩
    · exact absurd (unknown.symm.trans (same.trans secondUnknown)) different
    · obtain rfl : first = entry.engineKey := unknown.symm.trans (same.trans stored)
      exact ⟨entry, member, different.symm, .inr ⟨rfl, rfl⟩⟩
  · rcases eq_of_storedKey_eq coherent member (same.symm.trans stored) with rfl | rfl
    · exact absurd rfl different
    · exact ⟨entry, member, different, .inl ⟨rfl, rfl⟩⟩

theorem storedKey_engineKey {entry : PropertyEntry} (coherent : converter.Coherent)
    (member : entry ∈ converter.entries) :
    converter.storedKey entry.engineKey = entry.engineKey := by
  by_cases same : entry.genericKey = entry.engineKey
  · rw [← same, storedKey_genericKey coherent member, same]
  · exact (stored_of_isAlias coherent ⟨entry, member, rfl, same⟩ "").1

/-- Two given properties are stored in one place only if one property is given twice. -/
theorem givenTwice_of_storedKey_eq {first second : String} (coherent : converter.Coherent)
    (firstGiven : properties.contains first = true)
    (secondGiven : properties.contains second = true)
    (same : converter.storedKey first = converter.storedKey second) (different : first ≠ second) :
    converter.GivenTwice properties := by
  obtain ⟨entry, member, renamed, ⟨rfl, rfl⟩ | ⟨rfl, rfl⟩⟩ :=
    exists_entry_of_storedKey_eq coherent same different
  · exact ⟨entry, member, renamed, firstGiven, secondGiven⟩
  · exact ⟨entry, member, renamed, secondGiven, firstGiven⟩

/-- Given properties are kept unless one of them is given twice. -/
theorem keeps_iff_of_toEngine (coherent : converter.Coherent)
    (converted : converter.toEngine properties = .ok stored) :
    converter.Keeps properties stored ↔ ¬ converter.GivenTwice properties := by
  constructor
  · rintro kept ⟨entry, member, renamed, generic, engine⟩
    apply kept.separate _ _ generic engine renamed
    rw [engineKey_of_toEngine converted generic, engineKey_of_toEngine converted engine,
      storedKey_genericKey coherent member, storedKey_engineKey coherent member]
  · intro once
    refine ⟨fun first second firstGiven secondGiven different same => ?_,
      fun key text given => finds_of_last converted given fun other otherGiven same above => ?_⟩
    · rw [engineKey_of_toEngine converted firstGiven, engineKey_of_toEngine converted secondGiven,
        Except.ok.injEq] at same
      exact once (givenTwice_of_storedKey_eq coherent firstGiven secondGiven same different)
    · have keyGiven := Dictionary.contains_of_get? given
      exact once (givenTwice_of_storedKey_eq coherent otherGiven keyGiven same
        fun equal => String.lt_irrefl key (equal ▸ above))

end PropertyConverter

namespace Provider

variable {provider : Provider} {properties : Properties}

/-- Callers know every property of a schema by the name that it has in the engine. -/
theorem not_givenTwice_schemaConverter : ¬ provider.schemaConverter.GivenTwice properties := by
  rintro ⟨entry, member, renamed, _⟩
  have same : ∀ entry ∈ provider.schemaConverter.entries, entry.genericKey = entry.engineKey := by
    cases provider <;> decide
  exact renamed (same entry member)

/-- The location of a hive table and the format version of an iceberg table can be given
twice. -/
theorem givenTwice_tableConverter_iff :
    provider.tableConverter.GivenTwice properties ↔
      provider = .hive ∧ properties.contains "location" = true ∧
          properties.contains "external_location" = true ∨
        provider = .iceberg ∧ properties.contains "format-version" = true ∧
          properties.contains "format_version" = true := by
  cases provider <;> simp [PropertyConverter.GivenTwice, tableConverter, tableEntries]

/-- The given properties that are accepted for a schema are kept.  Those that are accepted for
a table are kept unless it is a hive table whose location, or an iceberg table whose format
version, is given under both its names.  In any case a property is found unless another one is
stored after it under its key. -/
theorem keeps_given (provider : Provider) (properties : Properties) :
    (∀ stored, provider.schemaConverter.toEngine properties = .ok stored →
      provider.schemaConverter.Keeps properties stored) ∧
    ∀ stored, provider.tableConverter.toEngine properties = .ok stored →
      (provider.tableConverter.Keeps properties stored ↔
        ¬ (provider = .hive ∧ properties.contains "location" = true ∧
            properties.contains "external_location" = true) ∧
          ¬ (provider = .iceberg ∧ properties.contains "format-version" = true ∧
            properties.contains "format_version" = true)) ∧
      ∀ key text, properties.get? key = some text →
        (∀ other, properties.contains other = true → key < other →
          provider.tableConverter.engineKey other ≠ provider.tableConverter.engineKey key) →
        provider.tableConverter.Finds stored key text := by
  refine ⟨fun stored converted => ?_, fun stored converted => ⟨?_, ?_⟩⟩
  · exact (PropertyConverter.keeps_iff_of_toEngine (coherent_schemaConverter provider)
      converted).mpr not_givenTwice_schemaConverter
  · rw [PropertyConverter.keeps_iff_of_toEngine (coherent_tableConverter provider) converted,
      givenTwice_tableConverter_iff, not_or]
  · intro key text given last
    refine PropertyConverter.finds_of_last converted given fun other otherGiven same above => ?_
    have keyGiven := Dictionary.contains_of_get? given
    apply last other otherGiven above
    rw [PropertyConverter.engineKey_of_toEngine converted otherGiven,
      PropertyConverter.engineKey_of_toEngine converted keyGiven, same]

/-- The properties of an iceberg table whose format version is given under both its names. -/
def versionTwice : Properties :=
  .ofList [("format-version", "1"), ("format_version", "abc")]

/-- A schema keeps the properties under both names.  A table accepts them as well, and the
version that is a number is lost. -/
theorem not_keeps_versionTwice :
    iceberg.schemaConverter.toEngine versionTwice = .ok (.ofList
        [("format-version", .string "1"), ("format_version", .string "abc")]) ∧
      iceberg.schemaConverter.Keeps versionTwice (.ofList
        [("format-version", .string "1"), ("format_version", .string "abc")]) ∧
      iceberg.tableConverter.toEngine versionTwice =
        .ok (.ofList [("format", .string "PARQUET"), ("format_version", .string "abc")]) ∧
      iceberg.tableConverter.toEngineEntry "format-version" "1" =
        .ok ("format_version", .integer 1) ∧
      ∀ stored, iceberg.tableConverter.toEngine versionTwice = .ok stored →
        ¬ iceberg.tableConverter.Keeps versionTwice stored ∧
          stored.get? "format_version" = some (.string "abc") ∧
          iceberg.tableConverter.Finds stored "format_version" "abc" := by
  obtain ⟨inSchema, inTable⟩ := keeps_given iceberg versionTwice
  have converted : iceberg.tableConverter.toEngine versionTwice =
      .ok (.ofList [("format", .string "PARQUET"), ("format_version", .string "abc")]) := by
    rfl
  have twice : versionTwice.contains "format-version" = true ∧
      versionTwice.contains "format_version" = true := by
    decide
  have last : ∀ other, versionTwice.contains other = true → ¬ "format_version" < other := by
    intro other given above
    have known : other ∈ versionTwice.keys := Dictionary.contains_iff.mp given
    have belowOrSame : ∀ key ∈ versionTwice.keys, ¬ "format_version" < key := by
      decide
    exact belowOrSame other known above
  refine ⟨by rfl, inSchema _ (by rfl), converted, by rfl, fun stored accepted => ?_⟩
  obtain ⟨kept, found⟩ := inTable stored accepted
  refine ⟨fun keeps => (kept.mp keeps).2 ⟨rfl, twice⟩, ?_, ?_⟩
  · obtain rfl := Except.ok.inj (converted.symm.trans accepted)
    rfl
  · exact found "format_version" "abc" (by rfl)
      fun other given above => absurd above (last other given)

end Provider

end CatalogGateway
