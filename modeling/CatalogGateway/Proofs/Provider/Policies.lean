import CatalogGateway.Proofs.Provider.ReadFaults
import CatalogGateway.Proofs.Provider.RoundTrip

/-!
# The two policies for layouts

What the strict policy stores, the lenient one stores in the same way.  The lenient policy leaves
out what a provider cannot store, and what it refuses it refuses for another reason.  Of a layout
it keeps the supported part in its order, which is described here feature by feature.
-/

namespace CatalogGateway

open Outcome

namespace Provider

section Support

/-- Whether a provider can partition rows in a way. -/
def supportsTransform : Provider → Transform → Bool
  | hive, .identity _ => true
  | iceberg, .bucket _ columns => columns.length = 1
  | iceberg, _ => true
  | memory, _ | hive, _ => false

/-- What a provider can store of a distribution. -/
def supportedDistribution : Provider → Option Distribution → Option Distribution
  | hive, distribution => distribution.filter fun present => present.strategy = .hash
  | memory, _ | iceberg, _ => none

/-- What a provider can store of the sort orders of a layout.  Hive catalogs sort within the
buckets of a hash, with nulls in their usual places. -/
def supportedOrders : Provider → Layout → List SortOrder
  | memory, _ => []
  | hive, layout =>
    if (hive.supportedDistribution layout.distribution).isSome then
      layout.sortOrders.map fun order => .usual order.column order.direction
    else []
  | iceberg, layout => layout.sortOrders

/-- The part of a layout that a provider supports, in its original order. -/
def supportedLayout (provider : Provider) (layout : Layout) : Layout where
  partitioning := layout.partitioning.filter provider.supportsTransform
  sortOrders := provider.supportedOrders layout
  distribution := provider.supportedDistribution layout.distribution

theorem isSome_partitionColumn? (transform : Transform) :
    (HiveLayout.partitionColumn? transform).isSome = hive.supportsTransform transform := by
  cases transform <;> rfl

theorem isSome_encodeTransform? (transform : Transform) :
    (IcebergLayout.encodeTransform? transform).isSome = iceberg.supportsTransform transform := by
  cases transform with
  | bucket buckets columns =>
      match columns with
      | [] | [_] | _ :: _ :: _ => simp [IcebergLayout.encodeTransform?, supportsTransform]
  | _ => rfl

/-- A provider keeps what it supports. -/
theorem keptLayout_eq_supportedLayout (provider : Provider) (layout : Layout) :
    provider.keptLayout layout = provider.supportedLayout layout := by
  obtain ⟨partitioning, orders, distribution⟩ := layout
  cases provider with
  | memory =>
      have none : partitioning.filter memory.supportsTransform = [] := by
        simp [List.filter_eq_nil_iff, supportsTransform]
      rw [keptLayout, supportedLayout, none]
      rfl
  | hive =>
      simp only [keptLayout, HiveLayout.kept, isSome_partitionColumn?]
      rfl
  | iceberg =>
      simp only [keptLayout, IcebergLayout.kept, isSome_encodeTransform?]
      rfl

end Support

end Provider

section Refusals

open Provider (RefusesArgument)

theorem PropertyConverter.raises_toEngine {converter : PropertyConverter} (sound : converter.Sound)
    (properties : Properties) : Raises RefusesArgument (converter.toEngine properties) := by
  have key (given : String) : Raises RefusesArgument (converter.engineKey given) := by
    rw [engineKey]
    split
    · exact .error ⟨_, _, rfl⟩
    · exact .ok _
  have value (given text : String) : Raises RefusesArgument (converter.storedValue given text) := by
    rw [storedValue]
    split
    · rw [PropertyEntry.parse]
      split
      · exact .ok _
      · exact .error ⟨_, _, rfl⟩
    · exact .ok _
  have each (given : String × String) :
      Raises RefusesArgument (converter.toEngineEntry given.1 given.2) :=
    (key given.1).bind fun _ => (value given.1 given.2).bind fun _ => .ok _
  refine (Raises.mapM each properties.entries).bind fun pairs => ?_
  obtain ⟨last, folded⟩ := exists_foldlM_addDefault sound.defaults (Dictionary.ofList pairs)
  rw [folded]
  exact .ok last

/-- The lenient policy refuses only a distribution by hash that is not complete. -/
theorem HiveLayout.raises_encode (table : String) (layout : Layout) :
    Raises RefusesArgument (encode .bestEffort table layout) := by
  have distribution :
      Raises RefusesArgument (supportedDistribution .bestEffort table layout.distribution) := by
    unfold supportedDistribution
    split
    · exact .ok _
    · split
      · exact .ok _
      · split
        · exact .error ⟨_, _, rfl⟩
        · exact .ok _
  have partitions : encodePartitioning .bestEffort table layout.partitioning =
      .ok (layout.partitioning.filterMap partitionColumn?) :=
    encodePartitioning_eq_ok_iff.mpr ⟨nofun, rfl⟩
  have keys (supported : Option Distribution) :
      encodeSorting .bestEffort table supported layout.sortOrders =
        .ok ((keptOrders supported layout.sortOrders).map encodeSortKey) :=
    encodeSorting_eq_ok_iff.mpr ⟨nofun, rfl⟩
  rw [encode, partitions]
  refine (Raises.ok _).bind fun _ => distribution.bind fun supported => ?_
  rw [keys]
  exact (Raises.ok _).bind fun _ => .ok _

namespace Provider

variable (provider : Provider) (table : TableDefinition)

theorem raises_encodeLayout :
    Raises RefusesArgument (provider.encodeLayout .bestEffort table) := by
  have stores (storable : provider.Storable table.layout) :
      provider.encodeLayout .bestEffort table = .ok (provider.storedLayout table.layout) :=
    encodeLayout_eq_ok_iff.mpr ⟨storable, nofun, rfl⟩
  cases provider with
  | memory | iceberg =>
      rw [stores trivial]
      exact .ok _
  | hive => exact HiveLayout.raises_encode table.name table.layout

/-- The lenient policy never refuses a table because a feature is not supported. -/
theorem raises_buildTable :
    Raises (fun fault => fault.kind ≠ .unsupported) (provider.buildTable .bestEffort table) := by
  have argument (fault : CatalogFault) (refuses : RefusesArgument fault) :
      (Fault.catalog fault).kind ≠ .unsupported := by
    obtain ⟨name, reason, rfl⟩ := refuses
    exact nofun
  have columns : Raises (fun fault => fault.kind ≠ .unsupported)
      ((table.columns.mapM provider.buildColumn).mapError Fault.type) :=
    .mapError fun fault _ => by cases fault <;> exact nofun
  have properties : Raises (fun fault => fault.kind ≠ .unsupported)
      ((provider.tableConverter.toEngine table.properties).mapError Fault.catalog) :=
    .mapError ((PropertyConverter.raises_toEngine (sound_tableConverter provider) _).imp argument)
  have layout : Raises (fun fault => fault.kind ≠ .unsupported)
      ((provider.encodeLayout .bestEffort table).mapError Fault.catalog) :=
    .mapError ((raises_encodeLayout provider table).imp argument)
  exact columns.bind fun _ => properties.bind fun _ => layout.bind fun _ => .ok _

end Provider

end Refusals

namespace Provider

/-- The lenient policy stores every table whose columns and properties can be stored, unless a
distribution by hash is not complete. -/
theorem exists_buildTable_bestEffort_iff {provider : Provider} {table : TableDefinition} :
    (∃ stored, provider.buildTable .bestEffort table = .ok stored) ↔
      (∃ columns, table.columns.mapM provider.buildColumn = .ok columns) ∧
        (∃ properties, provider.tableConverter.toEngine table.properties = .ok properties) ∧
        provider.Storable table.layout := by
  constructor
  · rintro ⟨stored, built⟩
    obtain ⟨_, columns, _, storable, _, properties, converted, _⟩ := buildTable_eq_ok_iff.mp built
    exact ⟨⟨_, columns⟩, ⟨properties, converted⟩, storable⟩
  · rintro ⟨⟨columns, columnsBuilt⟩, ⟨properties, converted⟩, storable⟩
    refine ⟨⟨table.name, columns, table.comment,
      properties.insertMany (provider.storedLayout table.layout).entries⟩, ?_⟩
    exact buildTable_eq_ok_iff.mpr
      ⟨rfl, columnsBuilt, rfl, storable, nofun, properties, converted, rfl⟩

/-- What the strict policy stores of a table, the lenient one stores as well.  The lenient policy
refuses no feature as one that is not supported: it stores every table whose columns and
properties can be stored, unless a distribution by hash is not complete.  If the columns that rows
are partitioned and sorted by have names, what it stores is read back with the part of the layout
that the provider supports. -/
theorem policies_agree (provider : Provider) (table : TableDefinition) :
    (∀ stored, provider.buildTable .required table = .ok stored →
      provider.buildTable .bestEffort table = .ok stored) ∧
    (∀ fault, provider.buildTable .bestEffort table = .error fault →
      fault.kind ≠ .unsupported) ∧
    ((∃ stored, provider.buildTable .bestEffort table = .ok stored) ↔
      (∃ columns, table.columns.mapM provider.buildColumn = .ok columns) ∧
        (∃ properties, provider.tableConverter.toEngine table.properties = .ok properties) ∧
        provider.Storable table.layout) ∧
    (table.layout.Named → ∀ stored, provider.buildTable .bestEffort table = .ok stored →
      ∃ shown, provider.parseTable stored = .ok shown ∧
        shown.layout = provider.supportedLayout table.layout) := by
  refine ⟨fun stored built => ?_, raises_buildTable provider table,
    exists_buildTable_bestEffort_iff, fun named stored built => ?_⟩
  · obtain ⟨name, columns, comment, storable, _, properties⟩ := buildTable_eq_ok_iff.mp built
    exact buildTable_eq_ok_iff.mpr ⟨name, columns, comment, storable, nofun, properties⟩
  · obtain ⟨_, _, _, _, _, properties, converted, _⟩ := buildTable_eq_ok_iff.mp built
    exact ⟨_, parseTable_of_buildTable named built converted,
      keptLayout_eq_supportedLayout provider table.layout⟩

/-- A hive table of whose layout a part is supported: one partition, the distribution and, beside
it, the sort orders with usual nulls. -/
def mixedTable : TableDefinition where
  name := "events"
  columns := [{ name := "id", type := .long }, { name := "at", type := .date }]
  layout := {
    partitioning := [.day "at", .identity "at", .bucket 4 ["id"]]
    sortOrders := [⟨"id", .descending, .nullsFirst⟩]
    distribution := some ⟨.hash, 8, ["id"]⟩ }

/-- The supported part is read back under the lenient policy.  A table that the strict policy
stores is stored as well, and one without buckets is refused for another reason. -/
theorem policies_agree_mixedTable :
    (∃ stored shown, hive.buildTable .bestEffort mixedTable = .ok stored ∧
      hive.parseTable stored = .ok shown ∧ shown.layout =
        ⟨[.identity "at"], [⟨"id", .descending, .nullsLast⟩], some ⟨.hash, 8, ["id"]⟩⟩) ∧
    (iceberg.buildTable .required delimitedTable = .ok delimitedEngineTable ∧
      iceberg.buildTable .bestEffort delimitedTable = .ok delimitedEngineTable) ∧
    ∃ fault, hive.buildTable .bestEffort
        { mixedTable with layout := { distribution := some ⟨.hash, 0, ["id"]⟩ } } =
          .error fault ∧ fault.kind ≠ .unsupported := by
  have named : mixedTable.layout.Named := ⟨by decide, by decide⟩
  obtain ⟨_, _, _, reads⟩ := policies_agree hive mixedTable
  obtain ⟨stores, _, _, _⟩ := policies_agree iceberg delimitedTable
  obtain ⟨_, refuses, _, _⟩ := policies_agree hive
    { mixedTable with layout := { distribution := some ⟨.hash, 0, ["id"]⟩ } }
  have strict : iceberg.buildTable .required delimitedTable = .ok delimitedEngineTable := by
    rfl
  obtain ⟨stored, built⟩ : ∃ stored, hive.buildTable .bestEffort mixedTable = .ok stored :=
    ⟨_, rfl⟩
  obtain ⟨shown, parsed, layout⟩ := reads named stored built
  exact ⟨⟨stored, shown, built, parsed, layout⟩, ⟨strict, stores _ strict⟩,
    _, rfl, refuses _ rfl⟩

end Provider

end CatalogGateway
