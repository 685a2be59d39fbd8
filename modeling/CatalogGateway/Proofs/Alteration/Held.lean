import CatalogGateway.Proofs.Alteration.Meaning
import CatalogGateway.Proofs.Store.Legibility

/-!
# Altered tables in their places

What steps that succeed make of a table stands in its place.  A step that changes a column looks
it up first, for which all columns must be legible.  So no step makes a table legible, and none
hides that it was not.
-/

namespace CatalogGateway

open MetadataStore

/-- A table stands under a number in the picture of a store. -/
def Store.Holds (store : Store) (id : Nat) (table : MemoryTable) : Prop :=
  ∃ picture, store.Shows picture ∧ picture.tables.lookup id = some table

namespace Alteration

/-- The column that a step looks up before it changes it. -/
def Step.column? : Step → Option String
  | .deleteColumn column _ | .renameColumn column _ | .updateColumnType column _
  | .updateColumnComment column _ => some column
  | _ => none

theorem exists_hasColumn {store after : Store} {name : TableName} {handle : TableHandle}
    {renamed : SchemaTable} {step : Step} {column : String} (looksUp : step.column? = some column)
    (executed : execute store name handle step = (.ok renamed, after)) :
    ∃ isThere, hasColumn store handle column = .ok isThere := by
  cases found : hasColumn store handle column with
  | ok isThere => exact ⟨isThere, rfl⟩
  | error fault =>
      cases step with
      | deleteColumn _ _ | renameColumn _ _ | updateColumnType _ _ | updateColumnComment _ _ =>
          cases looksUp
          simp only [execute, withColumn, found] at executed
          cases executed
      | renameTable _ | addColumn _ _ | updateComment _ | setProperty _ _ | removeProperty _ =>
          cases looksUp

/-- A step that looks up no column leaves all columns in the table. -/
theorem legible_of_applyTo {step : Step} {table : MemoryTable} (looksUp : step.column? = none)
    (legible : (step.applyTo table).Legible) : table.Legible := by
  cases step with
  | addColumn column ordinal =>
      exact fun present member => legible present (List.subset_insertIdx _ _ _ member)
  | renameTable _ | updateComment _ | setProperty _ _ | removeProperty _ => exact legible
  | deleteColumn _ _ | renameColumn _ _ | updateColumnType _ _ | updateColumnComment _ _ =>
      cases looksUp

theorem schema_foldl_applyTo (steps : List Step) (table : MemoryTable) :
    (steps.foldl Step.applyTo table).name.schema = table.name.schema := by
  induction steps generalizing table with
  | nil => rfl
  | cons step rest ih =>
      rw [List.foldl_cons, ih]
      cases step <;> rfl

/-- The name of a table after steps is that under which it is shown, in the same schema. -/
theorem name_of_parse {provider : Provider} {steps : List Step} {table : MemoryTable}
    {parts : TableName} {shown : TableDefinition} (named : table.name = parts.schemaTable)
    (parsed : provider.parseTable (steps.foldl Step.applyTo table).metadata = .ok shown) :
    (steps.foldl Step.applyTo table).name =
      ({ parts with table := shown.name } : TableName).schemaTable := by
  have schema := schema_foldl_applyTo steps table
  rw [named] at schema
  exact congrArg₂ SchemaTable.mk schema (Provider.parseTable_eq_ok_iff.mp parsed).1.symm

end Alteration

namespace Store.Holds

open Alteration

variable {store after : Store} {id : Nat} {table : MemoryTable} {provider : Provider}
  {name : TableName} {renamed : SchemaTable}

theorem tableHandle? (holds : store.Holds id table) :
    tableHandle? store table.name = some ⟨id, table.name⟩ := by
  obtain ⟨picture, shows, found⟩ := holds
  rw [Store.simulation_shows.tableHandle? shows, shows.sound.tableHandle?_eq_some_iff]
  exact ⟨rfl, table, found, rfl⟩

theorem tableMetadata_eq_ok_iff (holds : store.Holds id table) {stored : EngineTable} :
    tableMetadata store ⟨id, table.name⟩ = .ok stored ↔
      (store.keepsTexts = true → table.Legible) ∧ table.metadata = stored := by
  obtain ⟨picture, shows, found⟩ := holds
  have located : picture.table ⟨id, table.name⟩ = .ok table :=
    MemoryStore.table_eq_ok_iff.mpr ⟨found, rfl⟩
  rw [Store.tableMetadata_eq_ok_iff shows, located]
  simp

/-- What steps that succeed make of a table stands in its place, in a store of the same kind. -/
theorem run {steps : List Step} (holds : store.Holds id table)
    (ran : run provider store name table.name steps = (.ok renamed, after)) :
    after.Holds id (steps.foldl Step.applyTo table) ∧
      renamed = (steps.foldl Step.applyTo table).name ∧
      after.keepsTexts = store.keepsTexts := by
  obtain ⟨picture, shows, found⟩ := holds
  have repeats := run_repeats (Store.simulation_keeping store.keepsTexts) provider name name
    steps table.name ⟨shows, rfl⟩
  rw [ran] at repeats
  obtain ⟨pictured, shown, texts⟩ := repeats renamed rfl
  obtain ⟨place, same⟩ := run_eq_ok shows.sound found rfl (Prod.ext pictured rfl)
  exact ⟨⟨_, place ▸ shown, MemoryStore.lookup_setTable found _⟩, same, texts⟩

theorem perform {step : Step} (holds : store.Holds id table)
    (performed : perform provider store name table.name step = (.ok renamed, after)) :
    after.Holds id (step.applyTo table) ∧ renamed = (step.applyTo table).name ∧
      after.keepsTexts = store.keepsTexts := by
  have ran : Alteration.run provider store name table.name [step] = (.ok renamed, after) :=
    run_cons_eq_ok_iff.mpr ⟨renamed, after, performed, rfl⟩
  exact holds.run ran

/-- A step that succeeds takes no column of the layout, and it is carried out on the table. -/
theorem passes_of_perform {step : Step} (holds : store.Holds id table)
    (performed : Alteration.perform provider store name table.name step = (.ok renamed, after)) :
    requireOutsideLayout provider store name ⟨id, table.name⟩ step = .ok () ∧
      execute store name ⟨id, table.name⟩ step = (.ok renamed, after) := by
  obtain ⟨handle, located, passes⟩ := perform_eq_ok_iff.mp performed
  rw [findTable, holds.tableHandle?] at located
  cases located
  exact passes

/-- A step cannot make a table legible: if it does not keep all columns, it has read them. -/
theorem legible_of_perform {step : Step} (holds : store.Holds id table)
    (texts : store.keepsTexts = true)
    (performed : Alteration.perform provider store name table.name step = (.ok renamed, after))
    (legible : (step.applyTo table).Legible) : table.Legible := by
  cases looksUp : step.column? with
  | none => exact legible_of_applyTo looksUp legible
  | some column =>
      obtain ⟨_, executed⟩ := holds.passes_of_perform performed
      obtain ⟨_, reads⟩ := exists_hasColumn looksUp executed
      obtain ⟨_, columnsRead, _⟩ := Outcome.bind_eq_ok_iff.mp reads
      obtain ⟨_, described⟩ :=
        Store.exists_tableMetadata (Outcome.mapError_eq_ok_iff.mp columnsRead)
      exact (holds.tableMetadata_eq_ok_iff.mp described).1 texts

theorem legible_of_run {steps : List Step} (holds : store.Holds id table)
    (texts : store.keepsTexts = true)
    (ran : Alteration.run provider store name table.name steps = (.ok renamed, after))
    (legible : (steps.foldl Step.applyTo table).Legible) : table.Legible := by
  -- Legibility goes back from the last step to the first, past each that succeeded.
  induction steps generalizing store table with
  | nil => exact legible
  | cons step rest ih =>
      obtain ⟨middle, between, performed, ran⟩ := run_cons_eq_ok_iff.mp ran
      obtain ⟨stillHolds, rfl, sameKind⟩ := holds.perform performed
      exact holds.legible_of_perform texts performed
        (ih stillHolds (sameKind.trans texts) ran legible)

end Store.Holds

end CatalogGateway
