import CatalogGateway.Proofs.Properties.Settled
import CatalogGateway.Proofs.Provider.Tables
import CatalogGateway.Proofs.Types.RoundTrip

/-!
# Tables read back and stored again

A table that was stored is read back with its columns in their normal form, the part of its
layout that the provider keeps, and its properties as callers see them.  When the table that was
read is stored again, the same engine table comes out, unless one of the properties was stored
untyped.
-/

namespace CatalogGateway

namespace ColumnDefinition

/-- The column with its type in normal form. -/
def normalized (column : ColumnDefinition) : ColumnDefinition :=
  { column with type := column.type.normalized }

end ColumnDefinition

namespace Provider

variable {provider : Provider} {policy : LayoutPolicy} {table : TableDefinition}
  {stored : EngineTable} {properties : EngineProperties}

section Columns

variable {column : ColumnDefinition} {engine : EngineColumn}

theorem buildColumn_eq_ok_iff :
    provider.buildColumn column = .ok engine ↔
      engine.name = column.name ∧ provider.mapping.toEngine column.type = .ok engine.type ∧
        engine.nullable = column.nullable ∧ engine.comment = column.comment := by
  obtain ⟨name, type, nullable, comment⟩ := engine
  simp only [buildColumn, Outcome.bind_eq_ok_iff, pure, Except.pure, Except.ok.injEq,
    EngineColumn.mk.injEq]
  constructor
  · rintro ⟨_, mapped, rfl, rfl, rfl, rfl⟩
    exact ⟨rfl, mapped, rfl, rfl⟩
  · rintro ⟨rfl, mapped, rfl, rfl⟩
    exact ⟨type, mapped, rfl, rfl, rfl, rfl⟩

theorem reads_normalized (built : provider.buildColumn column = .ok engine) :
    provider.Reads engine column.normalized := by
  obtain ⟨name, mapped, nullable, comment⟩ := buildColumn_eq_ok_iff.mp built
  exact ⟨name.symm, TypeMapping.toGeneric_of_toEngine mapped, comment.symm, nullable.symm⟩

theorem buildColumn_normalized (built : provider.buildColumn column = .ok engine) :
    provider.buildColumn column.normalized = .ok engine := by
  obtain ⟨name, mapped, nullable, comment⟩ := buildColumn_eq_ok_iff.mp built
  exact buildColumn_eq_ok_iff.mpr
    ⟨name, TypeMapping.toEngine_normalized mapped, nullable, comment⟩

/-- Where a column stands is not stored with it. -/
theorem mapM_buildColumn_mapIdx (columns : List ColumnDefinition) (place : Nat → ColumnPosition) :
    (columns.mapIdx fun ordinal column => { column with position := place ordinal }).mapM
      provider.buildColumn = columns.mapM provider.buildColumn := by
  induction columns generalizing place with
  | nil => rfl
  | cons column rest ih =>
      rw [List.mapIdx_cons, List.mapM_cons, List.mapM_cons, ih fun ordinal => place (ordinal + 1)]
      rfl

end Columns

section Properties

theorem sound_tableConverter (provider : Provider) : provider.tableConverter.Sound where
  toCoherent := coherent_tableConverter provider
  free := by cases provider <;> decide
  defaults := by cases provider <;> decide

theorem isReserved_iff {key : String} :
    provider.tableConverter.isReserved key = true ↔ key ∈ provider.layoutKeys :=
  List.contains_iff_mem

end Properties

section Tables

/-- How a table reads when it was stored with some properties. -/
def shownTable (provider : Provider) (table : TableDefinition) (properties : EngineProperties) :
    TableDefinition where
  name := table.name
  columns := ColumnDefinition.numbered (table.columns.map ColumnDefinition.normalized)
  comment := table.comment
  properties := provider.tableConverter.toGeneric properties
  layout := provider.keptLayout table.layout

theorem isReserved_of_mem_storedLayout {layout : Layout} {entry : String × PropertyValue}
    (member : entry ∈ (provider.storedLayout layout).entries) :
    provider.tableConverter.isReserved entry.1 = true :=
  isReserved_iff.mpr (key_mem_of_storedLayout member)

/-- A table that was stored is read back. -/
theorem parseTable_of_buildTable (named : table.layout.Named)
    (built : provider.buildTable policy table = .ok stored)
    (converted : provider.tableConverter.toEngine table.properties = .ok properties) :
    provider.parseTable stored = .ok (provider.shownTable table properties) := by
  obtain ⟨name, columnsBuilt, comment, storable, _, other, otherConverted, all⟩ :=
    buildTable_eq_ok_iff.mp built
  obtain rfl : properties = other := Except.ok.inj (converted.symm.trans otherConverted)
  have reads : List.Forall₂ provider.Reads stored.columns
      (table.columns.map ColumnDefinition.normalized) := by
    rw [List.forall₂_map_right_iff]
    exact ((Outcome.forall₂_of_mapM_eq_ok columnsBuilt).imp fun _ _ => reads_normalized).flip
  -- No property is stored under a key of the layout, so this is read as if it stood alone.
  have layoutRead : provider.decodeLayout stored.properties =
      .ok (provider.keptLayout table.layout) := by
    rw [← decodeLayout_storedLayout named storable]
    apply decodeLayout_congr
    intro key member
    have absent := PropertyConverter.unreserved_of_toEngine (sound_tableConverter provider)
      converted (isReserved_iff.mpr member)
    rw [all, Dictionary.get?_insertMany (Dictionary.keys_nodup _), absent, Option.or_none]
    rfl
  have propertiesShown : provider.tableConverter.toGeneric stored.properties =
      provider.tableConverter.toGeneric properties := by
    have coherent := coherent_tableConverter provider
    rw [all]
    apply PropertyConverter.toGeneric_insertMany coherent
      (PropertyConverter.native_toEngine coherent converted)
    · exact fun entry member => not_isRenamed_of_layoutKey (key_mem_of_storedLayout member)
    · exact fun entry member => isReserved_of_mem_storedLayout member
  rw [parseTable_eq_ok_iff]
  refine ⟨name.symm, ?_, comment.symm, propertiesShown.symm, layoutRead⟩
  have columnsRead := parseColumns_of_reads reads 0
  simp only [Nat.zero_add] at columnsRead
  exact columnsRead

/-- What is read back is stored under the strict policy as the table was, if its properties
are. -/
theorem buildTable_shownTable_iff (built : provider.buildTable policy table = .ok stored)
    (converted : provider.tableConverter.toEngine table.properties = .ok properties) :
    provider.buildTable .required (provider.shownTable table properties) = .ok stored ↔
      provider.tableConverter.Settled properties := by
  have sound := sound_tableConverter provider
  have native := PropertyConverter.native_toEngine sound.toCoherent converted
  obtain ⟨name, columnsBuilt, comment, storable, _, other, otherConverted, all⟩ :=
    buildTable_eq_ok_iff.mp built
  obtain rfl : properties = other := Except.ok.inj (converted.symm.trans otherConverted)
  rw [buildTable_eq_ok_iff, ← PropertyConverter.toEngine_toGeneric_iff sound native]
  constructor
  · rintro ⟨_, _, _, _, _, again, convertedAgain, allAgain⟩
    have sameLayout : provider.storedLayout (provider.shownTable table properties).layout =
      provider.storedLayout table.layout := storedLayout_keptLayout provider table.layout
    rw [all, sameLayout] at allAgain
    have same : properties = again := PropertyConverter.eq_of_insertMany_eq
      (fun _ => isReserved_of_mem_storedLayout)
      (fun _ => PropertyConverter.unreserved_of_toEngine sound converted)
      (fun _ => PropertyConverter.unreserved_of_toEngine sound convertedAgain) allAgain
    exact same ▸ convertedAgain
  · intro convertedAgain
    refine ⟨name, ?_, comment, storable_keptLayout storable,
      fun _ => keptLayout_keptLayout provider table.layout, properties, convertedAgain, ?_⟩
    · have normalized := (Outcome.forall₂_of_mapM_eq_ok columnsBuilt).imp
        fun _ _ => buildColumn_normalized
      have columnsAgain : (table.columns.map ColumnDefinition.normalized).mapM
          provider.buildColumn = .ok stored.columns :=
        Outcome.mapM_eq_ok_of_forall₂ (List.forall₂_map_left_iff.mpr normalized)
      exact (mapM_buildColumn_mapIdx _ _).trans columnsAgain
    · rw [all, shownTable, storedLayout_keptLayout]

end Tables

section Results

/-- How a column comes back from the place where it was stored. -/
structure Returned (provider : Provider) (ordinal : Nat) (column shown : ColumnDefinition) :
    Prop where
  name : shown.name = column.name
  nullable : shown.nullable = column.nullable
  comment : shown.comment = column.comment
  position : shown.position = .index (.ofNat ordinal)
  type : ∃ engine, provider.mapping.toEngine column.type = .ok engine ∧
    provider.mapping.toGeneric engine = .ok shown.type
  equivalent : shown.type.isEquivalent column.type = true

theorem returned_of_buildColumn {column : ColumnDefinition} {engine : EngineColumn}
    (built : provider.buildColumn column = .ok engine) (ordinal : Nat) :
    provider.Returned ordinal column
      { column.normalized with position := .index (.ofNat ordinal) } where
  name := rfl
  nullable := rfl
  comment := rfl
  position := rfl
  type := ⟨engine.type, (buildColumn_eq_ok_iff.mp built).2.1, (reads_normalized built).type⟩
  equivalent := by
    rw [DataType.isEquivalent_comm]
    exact DataType.isEquivalent_normalized column.type

/-- What the strict policy stores is read back: the layout as it was, and each column in its
place, with a type that is equivalent to its own. -/
theorem parseTable_of_buildTable_required (named : table.layout.Named)
    (built : provider.buildTable .required table = .ok stored) :
    ∃ shown, provider.parseTable stored = .ok shown ∧ shown.name = table.name ∧
      shown.comment = table.comment ∧ shown.layout = table.layout ∧
      shown.columns.length = table.columns.length ∧
      ∀ ordinal column, table.columns[ordinal]? = some column →
        ∃ returned, shown.columns[ordinal]? = some returned ∧
          provider.Returned ordinal column returned := by
  obtain ⟨_, columnsBuilt, _, _, isKept, properties, converted, _⟩ := buildTable_eq_ok_iff.mp built
  refine ⟨_, parseTable_of_buildTable named built converted, rfl, rfl, isKept rfl, ?_, ?_⟩
  · simp [shownTable, ColumnDefinition.numbered]
  · intro ordinal column present
    obtain ⟨engine, _, columnBuilt⟩ :=
      Outcome.exists_result_of_mapM_eq_ok columnsBuilt (List.mem_of_getElem? present)
    refine ⟨_, ?_, returned_of_buildColumn columnBuilt ordinal⟩
    simp [shownTable, ColumnDefinition.numbered, present]

/-- An iceberg table whose columns are named to be mistaken for parts of its layout. -/
def delimitedTable : TableDefinition where
  name := "events"
  columns := [{ name := "id\"), 2", type := .list (.fixed 16) false, nullable := false },
    { name := "NULLS FIRST", type := .long, comment := some "seen at" }]
  layout := {
    partitioning := [.bucket 16 ["id\"), 2"], .identity "NULLS FIRST", .truncate 4 "day(x)"],
    sortOrders := [⟨"NULLS FIRST", .descending, .nullsFirst⟩, ⟨"a DESC", .ascending, .nullsLast⟩] }

/-- The table as an engine stores it. -/
def delimitedEngineTable : EngineTable where
  name := "events"
  columns := [{ name := "id\"), 2", type := .array .varbinary, nullable := false },
    { name := "NULLS FIRST", type := .bigInt, comment := some "seen at" }]
  properties := .ofList [("format", .string "PARQUET"), ("format_version", .integer 2),
    ("partitioning",
      .array ["bucket(\"id\"\"), 2\", 16)", "\"NULLS FIRST\"", "truncate(\"day(x)\", 4)"]),
    ("sorted_by", .array ["\"NULLS FIRST\" DESC NULLS FIRST", "\"a DESC\" NULLS LAST"])]

theorem named_delimitedTable : delimitedTable.layout.Named :=
  ⟨by decide, by decide⟩

/-- The table comes back with its layout. -/
theorem parseTable_delimitedTable :
    iceberg.buildTable .required delimitedTable = .ok delimitedEngineTable ∧
    ∃ shown, iceberg.parseTable delimitedEngineTable = .ok shown ∧ shown.name = "events" ∧
      shown.comment = none ∧ shown.layout = delimitedTable.layout ∧ shown.columns.length = 2 ∧
      ∀ ordinal column, delimitedTable.columns[ordinal]? = some column →
        ∃ returned, shown.columns[ordinal]? = some returned ∧
          iceberg.Returned ordinal column returned := by
  have built : iceberg.buildTable .required delimitedTable = .ok delimitedEngineTable := by
    rfl
  exact ⟨built, parseTable_of_buildTable_required named_delimitedTable built⟩

/-- The only property that is no text and that callers can give under the engine's name for it
is the format version of an iceberg table. -/
theorem isTypedAlias_iff {key : String} :
    provider.tableConverter.IsTypedAlias key ↔ provider = .iceberg ∧ key = "format_version" := by
  have coherent := coherent_tableConverter provider
  constructor
  · rintro ⟨⟨entry, member, rfl, different⟩, typed⟩
    rw [PropertyConverter.storedKind_engineKey coherent member] at typed
    have only : ∀ entry ∈ provider.tableEntries, entry.genericKey ≠ entry.engineKey →
        entry.kind ≠ .string → provider = .iceberg ∧ entry.engineKey = "format_version" := by
      cases provider <;> decide
    exact only entry member different typed
  · rintro ⟨rfl, rfl⟩
    exact ⟨by decide, by decide⟩

/-- What is stored under either policy is read back, and what is read is stored under the strict
policy as it was, unless it is an iceberg table whose format version was given under the engine's
name for it. -/
theorem buildTable_parseTable_iff (named : table.layout.Named)
    (built : provider.buildTable policy table = .ok stored) :
    ∃ shown, provider.parseTable stored = .ok shown ∧
      (provider.buildTable .required shown = .ok stored ↔
        ¬ (provider = .iceberg ∧ table.properties.contains "format_version" = true)) := by
  obtain ⟨_, _, _, _, _, properties, converted, _⟩ := buildTable_eq_ok_iff.mp built
  refine ⟨_, parseTable_of_buildTable named built converted, ?_⟩
  have late : ∀ entry ∈ provider.tableEntries, entry.kind ≠ .string →
      entry.genericKey ≠ entry.engineKey → entry.genericKey < entry.engineKey := by
    cases provider <;> decide
  rw [buildTable_shownTable_iff built converted,
    PropertyConverter.settled_iff_of_toEngine (sound_tableConverter provider) late converted]
  simp only [isTypedAlias_iff]
  constructor
  · rintro untyped ⟨isIceberg, given⟩
    rw [untyped "format_version" ⟨isIceberg, rfl⟩] at given
    cases given
  · rintro untyped key ⟨isIceberg, rfl⟩
    exact Bool.eq_false_iff.mpr fun given => untyped ⟨isIceberg, given⟩

/-- A table whose format version is given under the engine's name for it. -/
def untypedTable : TableDefinition where
  name := "events"
  properties := .ofList [("format_version", "abc")]

/-- The table as an engine stores it, with a format version that is a text. -/
def untypedEngineTable : EngineTable where
  name := "events"
  properties := .ofList [("format", .string "PARQUET"), ("format_version", .string "abc")]

/-- The table is stored, and what is read of it is not stored in the same way. -/
theorem buildTable_untypedTable :
    iceberg.buildTable .bestEffort untypedTable = .ok untypedEngineTable ∧
    ∃ shown, iceberg.parseTable untypedEngineTable = .ok shown ∧
      iceberg.buildTable .required shown ≠ .ok untypedEngineTable := by
  have named : untypedTable.layout.Named := ⟨by decide, by decide⟩
  have built : iceberg.buildTable .bestEffort untypedTable = .ok untypedEngineTable := by
    rfl
  obtain ⟨shown, parsed, again⟩ := buildTable_parseTable_iff named built
  have given : untypedTable.properties.contains "format_version" = true := by
    decide
  exact ⟨built, shown, parsed, fun rebuilt => again.mp rebuilt ⟨rfl, given⟩⟩

end Results

end Provider

end CatalogGateway
