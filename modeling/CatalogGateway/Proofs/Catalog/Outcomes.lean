import CatalogGateway.Proofs.Alteration.Execution
import CatalogGateway.Proofs.Catalog.Simulation

/-!
# Outcomes of routed operations

What a routed operation that succeeds has found in a sound store in memory, and what it has
made of it.
-/

namespace CatalogGateway

theorem Provider.name_of_buildTable {provider : Provider} {policy : LayoutPolicy}
    {table : TableDefinition} {stored : EngineTable}
    (built : provider.buildTable policy table = .ok stored) : stored.name = table.name := by
  obtain ⟨_, _, built⟩ := Outcome.bind_eq_ok_iff.mp built
  obtain ⟨_, _, built⟩ := Outcome.bind_eq_ok_iff.mp built
  obtain ⟨_, _, same⟩ := Outcome.bind_eq_ok_iff.mp built
  cases same
  rfl

namespace Bridge

variable {bridge : Bridge} {store after : MemoryStore} {name : QualifiedName}
  {reply : TableDefinition}

theorem after_eq_ok_iff {σ α : Type} {outcome : Except StoreFault α × σ} {value : α} {left : σ} :
    Bridge.after outcome = .ok (value, left) ↔ outcome = (.ok value, left) := by
  obtain ⟨result, store⟩ := outcome
  cases result <;> simp [Bridge.after, Except.mapError, Except.map]

theorem createSchema_eq_ok {comment : Option String} {properties : Properties}
    {schema : SchemaDefinition}
    (created : bridge.createSchema (.ok store) name comment properties = .ok (schema, after)) :
    ∃ parts stored, bridge.schemaName name = .ok parts ∧
      store.schemas.contains parts.schema = false ∧
      after = { store with schemas := store.schemas.insert parts.schema stored } := by
  obtain ⟨parts, named, created⟩ := Outcome.bind_eq_ok_iff.mp created
  obtain ⟨stored, _, created⟩ := Outcome.bind_eq_ok_iff.mp created
  obtain ⟨_, same, created⟩ := Outcome.bind_eq_ok_iff.mp created
  cases same
  split at created
  · cases created
  · rename_i fresh
    obtain ⟨⟨_, left⟩, mutated, same⟩ := Outcome.bind_eq_ok_iff.mp created
    cases same
    obtain ⟨_, _, rfl⟩ := MetadataStore.guarded_eq_ok_iff.mp (after_eq_ok_iff.mp mutated)
    exact ⟨parts, stored, named, Bool.eq_false_iff.mpr fresh, rfl⟩

theorem dropSchema_eq_ok {cascade dropped : Bool}
    (served : bridge.dropSchema (.ok store) name cascade = .ok (dropped, after)) :
    (dropped = false ∧ after = store) ∨
      ∃ parts, bridge.schemaName name = .ok parts ∧
        store.schemas.contains parts.schema = true ∧
        (cascade = false → store.tablesOf parts.schema = []) ∧
        after = { store with
          schemas := store.schemas.erase parts.schema
          tables := store.tables.filter fun entry =>
            decide (entry.2.name.schema ≠ parts.schema) } := by
  obtain ⟨parts, named, served⟩ := Outcome.bind_eq_ok_iff.mp served
  obtain ⟨_, same, served⟩ := Outcome.bind_eq_ok_iff.mp served
  cases same
  split at served
  · rename_i present
    obtain ⟨⟨_, left⟩, mutated, same⟩ := Outcome.bind_eq_ok_iff.mp served
    cases same
    obtain ⟨_, checked, rfl⟩ := MetadataStore.guarded_eq_ok_iff.mp (after_eq_ok_iff.mp mutated)
    obtain ⟨_, _, checked⟩ := Outcome.bind_eq_ok_iff.mp checked
    refine Or.inr ⟨parts, named, present, ?_, rfl⟩
    rintro rfl
    split at checked
    · cases checked
    · rename_i empty
      simpa using empty
  · cases served
    exact Or.inl ⟨rfl, rfl⟩

theorem readTable_eq_ok (sound : store.Sound) {shown : String} {present : SchemaTable}
    (read : bridge.readTable store shown present = .ok reply) :
    ∃ id table, store.tables.lookup id = some table ∧ table.name = present ∧
      bridge.adapter.parseTable table.metadata = .ok reply := by
  rw [readTable] at read
  split at read
  · cases read
  · rename_i handle located
    obtain ⟨stored, loaded, parsed⟩ := Outcome.bind_eq_ok_iff.mp read
    obtain ⟨table, resolved, rfl⟩ :=
      Outcome.map_eq_ok_iff.mp (Outcome.mapError_eq_ok_iff.mp loaded)
    obtain ⟨found, named⟩ := MemoryStore.table_eq_ok_iff.mp resolved
    obtain ⟨handleNamed, _⟩ := sound.tableHandle?_eq_some_iff.mp located
    exact ⟨handle.id, table, found, named.trans handleNamed, parsed⟩

theorem loadTable_eq_ok (sound : store.Sound)
    (loaded : bridge.loadTable (.ok store) name = .ok reply) :
    ∃ parts id table, bridge.tableName name = .ok parts ∧
      store.tables.lookup id = some table ∧ table.name = parts.schemaTable ∧
      bridge.adapter.parseTable table.metadata = .ok reply := by
  obtain ⟨parts, named, loaded⟩ := Outcome.bind_eq_ok_iff.mp loaded
  obtain ⟨_, same, read⟩ := Outcome.bind_eq_ok_iff.mp loaded
  cases same
  obtain ⟨id, table, found, tableNamed, parsed⟩ := readTable_eq_ok sound read
  exact ⟨parts, id, table, named, found, tableNamed, parsed⟩

theorem createTable_eq_ok {table : TableDefinition} {policy : LayoutPolicy}
    (created : bridge.createTable (.ok store) name table policy = .ok (reply, after)) :
    ∃ parts stored, bridge.tableName name = .ok parts ∧
      bridge.adapter.buildTable policy { table with name := parts.table } = .ok stored ∧
      store.findTable? parts.schemaTable = none ∧
      (MemoryTable.ofEngine parts.schema stored).name = parts.schemaTable ∧
      after = store.addTable (.ofEngine parts.schema stored) := by
  obtain ⟨parts, named, created⟩ := Outcome.bind_eq_ok_iff.mp created
  obtain ⟨stored, built, created⟩ := Outcome.bind_eq_ok_iff.mp created
  obtain ⟨_, same, created⟩ := Outcome.bind_eq_ok_iff.mp created
  cases same
  obtain ⟨_, _, created⟩ := Outcome.bind_eq_ok_iff.mp created
  split at created
  · cases created
  · obtain ⟨⟨_, left⟩, mutated, read⟩ := Outcome.bind_eq_ok_iff.mp created
    obtain ⟨_, _, same⟩ := Outcome.bind_eq_ok_iff.mp read
    cases same
    obtain ⟨unused, rfl⟩ := MemoryStore.createTable_eq_ok (after_eq_ok_iff.mp mutated)
    have storedName : SchemaTable.mk parts.schema stored.name = parts.schemaTable :=
      congrArg (SchemaTable.mk parts.schema) (Provider.name_of_buildTable built)
    rw [storedName] at unused
    exact ⟨parts, stored, named, built, unused, storedName, rfl⟩

/-- An alteration that succeeds has put what its steps make of the table in the place of the
table, and reads it back. -/
theorem alterTable_eq_ok {changes : List TableChange} (sound : store.Sound)
    (altered : bridge.alterTable (.ok store) name changes = .ok (reply, after)) :
    ∃ parts steps id table, bridge.tableName name = .ok parts ∧
      Alteration.plan bridge.adapter parts changes = .ok steps ∧
      store.tables.lookup id = some table ∧ table.name = parts.schemaTable ∧
      after = store.setTable id (steps.foldl Alteration.Step.applyTo table) ∧
      bridge.adapter.parseTable (steps.foldl Alteration.Step.applyTo table).metadata =
        .ok reply := by
  obtain ⟨parts, named, altered⟩ := Outcome.bind_eq_ok_iff.mp altered
  obtain ⟨_, same, altered⟩ := Outcome.bind_eq_ok_iff.mp altered
  cases same
  cases planned : Alteration.plan bridge.adapter parts changes with
  | error fault =>
      simp only [Alteration.apply, planned] at altered
      cases altered
  | ok steps =>
      simp only [Alteration.apply, planned] at altered
      have sounds := Alteration.run_repeats MemoryStore.simulation_sound bridge.adapter parts
        parts steps parts.schemaTable ⟨rfl, sound⟩
      generalize ran : Alteration.run bridge.adapter store parts parts.schemaTable steps =
        outcome at altered sounds
      obtain ⟨renamed, succeeds, read⟩ := Outcome.bind_eq_ok_iff.mp altered
      obtain ⟨_, readable, same⟩ := Outcome.bind_eq_ok_iff.mp read
      cases same
      obtain ⟨result, left⟩ := outcome
      cases succeeds
      obtain ⟨_, _, afterSound⟩ := sounds renamed rfl
      cases located : MetadataStore.tableHandle? store parts.schemaTable with
      | none =>
          obtain ⟨rfl, rfl⟩ := Alteration.run_of_missing located ran
          simp only [readTable, located] at readable
          cases readable
      | some handle =>
          obtain ⟨_, table, found, tableNamed⟩ := sound.tableHandle?_eq_some_iff.mp located
          obtain ⟨rfl, rfl⟩ := Alteration.run_eq_ok sound found tableNamed ran
          obtain ⟨id, held, holds, heldNamed, parsed⟩ := readTable_eq_ok afterSound readable
          have put := MemoryStore.lookup_setTable found
            (steps.foldl Alteration.Step.applyTo table)
          obtain rfl := afterSound.names holds put heldNamed
          cases holds.symm.trans put
          exact ⟨parts, steps, _, table, named, planned, found, tableNamed, rfl, parsed⟩

theorem dropTable_eq_ok {dropped : Bool} (sound : store.Sound)
    (served : bridge.dropTable (.ok store) name = .ok (dropped, after)) :
    (dropped = false ∧ after = store) ∨
      ∃ parts id table, bridge.tableName name = .ok parts ∧
        store.tables.lookup id = some table ∧ table.name = parts.schemaTable ∧
        after = { store with
          tables := store.tables.filter fun entry => decide (entry.1 ≠ id) } := by
  obtain ⟨parts, named, served⟩ := Outcome.bind_eq_ok_iff.mp served
  obtain ⟨_, same, served⟩ := Outcome.bind_eq_ok_iff.mp served
  cases same
  split at served
  · cases served
    exact Or.inl ⟨rfl, rfl⟩
  · rename_i handle located
    obtain ⟨⟨_, left⟩, mutated, same⟩ := Outcome.bind_eq_ok_iff.mp served
    cases same
    obtain ⟨_, table, found, tableNamed⟩ := sound.tableHandle?_eq_some_iff.mp located
    obtain ⟨_, _, rfl⟩ := MetadataStore.guarded_eq_ok_iff.mp (after_eq_ok_iff.mp mutated)
    exact Or.inr ⟨parts, handle.id, table, named, found, tableNamed, rfl⟩

end Bridge

end CatalogGateway
