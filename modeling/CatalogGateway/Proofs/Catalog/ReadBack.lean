import CatalogGateway.Proofs.Catalog.Splitting
import CatalogGateway.Proofs.Provider.Schemas

/-!
# Loads after changes

What an operation answers that creates a schema, or creates or alters a table, is what a load
answers right after it.  The answer is read from the copy of the store that the operation works
on, or made of the properties that are stored, and the load reads the store that the copy has
become.
-/

namespace CatalogGateway

open MetadataStore

theorem Store.Shows.schemaProperties {store : Store} {picture : MemoryStore}
    (shows : store.Shows picture) (schema : String) :
    schemaProperties store schema = schemaProperties picture schema := by
  cases store with
  | memory store =>
      obtain ⟨rfl, _⟩ := shows
      rfl
  | relational store => exact shows.depicts.schemaProperties schema
  | «sealed» kept => exact shows.depicts.schemaProperties schema

/-- A schema that is created shows in the picture. -/
theorem Store.Shows.createSchema {store after : Store} {picture : MemoryStore} {schema : String}
    {stored : EngineProperties} (shows : store.Shows picture)
    (created : MetadataStore.createSchema store schema stored = (.ok (), after)) :
    after.Shows { picture with schemas := picture.schemas.insert schema stored } := by
  have repeats := Store.simulation_shows.acknowledge shows (.createSchema schema stored) rfl rfl
  rw [created] at repeats
  obtain ⟨pictured, shown⟩ := repeats () rfl
  obtain ⟨_, _, next⟩ := MetadataStore.guarded_eq_ok_iff.mp (Prod.ext pictured rfl)
  rw [next]
  exact shown

namespace Bridge

variable {bridge : Bridge} {name : QualifiedName} {parts : TableName} {reply : TableDefinition}
  {store after : Store} {picture : MemoryStore}

theorem loadTable_of_named {σ : Type} [MetadataStore σ] (named : bridge.tableName name = .ok parts)
    (store : σ) :
    bridge.loadTable (.ok store) name =
      bridge.readTable store name.display parts.schemaTable := by
  rw [loadTable, named]
  rfl

theorem last_of_named (named : bridge.tableName name = .ok parts) : name.last = parts.table := by
  obtain ⟨rfl, _⟩ := tableName_eq_ok_iff.mp named
  rfl

/-- A schema that was created is loaded as it was given. -/
theorem loadSchema_of_createSchema {comment : Option String} {properties : Properties}
    {schema : SchemaDefinition} (shows : store.Shows picture)
    (created : bridge.createSchema (.ok store) name comment properties = .ok (schema, after)) :
    bridge.loadSchema (.ok after) name = .ok schema ∧ schema.comment = comment ∧
      schema.properties = properties := by
  obtain ⟨parts, named, created⟩ := Outcome.bind_eq_ok_iff.mp created
  obtain ⟨stored, built, created⟩ := Outcome.bind_eq_ok_iff.mp created
  obtain ⟨_, same, created⟩ := Outcome.bind_eq_ok_iff.mp created
  cases same
  split at created
  · cases created
  · obtain ⟨⟨_, left⟩, mutated, same⟩ := Outcome.bind_eq_ok_iff.mp created
    cases same
    have shown := shows.createSchema (after_eq_ok_iff.mp mutated)
    have found := Dictionary.get?_insert_self picture.schemas parts.schema stored
    have present : hasSchema after parts.schema = true := by
      rw [Store.simulation_shows.hasSchema shown]
      exact Option.isSome_iff_exists.mpr ⟨stored, found⟩
    have described : schemaProperties after parts.schema = .ok stored := by
      rw [shown.schemaProperties]
      simp only [schemaProperties, found]
    have given := Provider.parseSchema_of_buildSchema (Outcome.mapError_eq_ok_iff.mp built)
    have loaded : bridge.loadSchema (.ok after) name =
        .ok (bridge.adapter.parseSchema parts.schema stored) := by
      rw [loadSchema, named]
      simp only [enter, requireSchema, present, described, bind, Except.bind, Except.mapError,
        if_true]
      rfl
    exact ⟨loaded, by rw [given], by rw [given]⟩

theorem readTable_of_createTable {σ : Type} [MetadataStore σ] {store after : σ}
    {table : TableDefinition} {policy : LayoutPolicy} (named : bridge.tableName name = .ok parts)
    (created : bridge.createTable (.ok store) name table policy = .ok (reply, after)) :
    bridge.readTable after name.display parts.schemaTable = .ok reply := by
  obtain ⟨others, othersNamed, created⟩ := Outcome.bind_eq_ok_iff.mp created
  cases named.symm.trans othersNamed
  obtain ⟨_, _, created⟩ := Outcome.bind_eq_ok_iff.mp created
  obtain ⟨_, _, created⟩ := Outcome.bind_eq_ok_iff.mp created
  obtain ⟨_, _, created⟩ := Outcome.bind_eq_ok_iff.mp created
  split at created
  · cases created
  · obtain ⟨_, _, created⟩ := Outcome.bind_eq_ok_iff.mp created
    obtain ⟨_, read, same⟩ := Outcome.bind_eq_ok_iff.mp created
    cases same
    exact read

/-- A table that was created is loaded as what was built of its definition. -/
theorem loadTable_of_createTable {table : TableDefinition} {policy : LayoutPolicy}
    (shows : store.Shows picture)
    (created : bridge.createTable (.ok store) name table policy = .ok (reply, after)) :
    bridge.loadTable (.ok after) name = .ok reply ∧ reply.name = name.last ∧
      ∃ stored, bridge.adapter.buildTable policy { table with name := name.last } = .ok stored ∧
        bridge.adapter.parseTable stored = .ok reply := by
  obtain ⟨⟨_, next⟩, pictured, same, shown⟩ :=
    createTable_refines Store.simulation_shows shows bridge name table policy _ created
  cases same
  obtain ⟨parts, stored, named, built, _, storedName, rfl⟩ := createTable_eq_ok pictured
  -- The creation ends with a read of the new table, which is the read of the load.
  have holds : after.Holds (picture.lastTableId + 1) (.ofEngine parts.schema stored) := by
    refine ⟨_, shown, ?_⟩
    rw [shows.sound.lookup_addTable, if_pos rfl]
  have read := readTable_of_createTable named created
  rw [loadTable_of_named named, last_of_named named]
  have readHeld := read
  rw [← storedName] at readHeld
  obtain ⟨_, parsed⟩ := holds.readTable_eq_ok_iff.mp readHeld
  have shownName : reply.name = stored.name := (Provider.parseTable_eq_ok_iff.mp parsed).1
  exact ⟨read, shownName.trans (Provider.name_of_buildTable built), stored, built, parsed⟩

/-- An alteration that renames a table leaves nothing under the name that it had. -/
theorem tableHandle?_of_alterTable {changes : List TableChange} (shows : store.Shows picture)
    (named : bridge.tableName name = .ok parts)
    (altered : bridge.alterTable (.ok store) name changes = .ok (reply, after))
    (moved : reply.name ≠ parts.table) : tableHandle? after parts.schemaTable = none := by
  obtain ⟨⟨_, next⟩, pictured, same, shown⟩ :=
    alterTable_refines Store.simulation_shows shows bridge name changes _ altered
  cases same
  obtain ⟨others, steps, id, table, othersNamed, _, found, tableNamed, same, parsed⟩ :=
    alterTable_eq_ok shows.sound pictured
  cases same
  cases named.symm.trans othersNamed
  have replaced := shows.sound.replaced found shown.sound
  have newName := Alteration.name_of_parse tableNamed parsed
  -- The table stands for the former one under its new name, which leaves the old name free.
  rw [tableNamed, newName] at replaced
  have renamed : ({ parts with table := reply.name } : TableName).schemaTable ≠
      parts.schemaTable := fun same => moved (congrArg SchemaTable.table same)
  have absent := (replaced.moved renamed).2
  rw [Store.simulation_shows.tableHandle? shown]
  show Option.map _ (MemoryStore.findTable? _ _) = none
  rw [MemoryStore.findTable?_eq_map, absent]
  rfl

/-- A table that was altered is loaded under the name that it has got, and not under the one
that it had. -/
theorem loadTable_of_alterTable {changes : List TableChange} (shows : store.Shows picture)
    (altered : bridge.alterTable (.ok store) name changes = .ok (reply, after)) :
    bridge.loadTable (.ok after) (name.withLast reply.name) = .ok reply ∧
      (reply.name ≠ name.last →
        bridge.loadTable (.ok after) name = .error (.notFound .table name.display)) := by
  obtain ⟨parts, id, table, named, holds, tableNamed⟩ := exists_holds shows altered
  obtain ⟨steps, _, ran, legible, parsed⟩ :=
    (alterTable_eq_ok_iff_of_holds parts named holds tableNamed).mp altered
  obtain ⟨held, _, sameKind⟩ := holds.run ran
  have newName := Alteration.name_of_parse tableNamed parsed
  constructor
  · rw [loadTable_of_named (tableName_withLast named reply.name), ← newName]
    exact held.readTable_eq_ok_iff.mpr ⟨sameKind ▸ legible, parsed⟩
  · intro moved
    rw [last_of_named named] at moved
    rw [loadTable_of_named named, readTable, tableHandle?_of_alterTable shows named altered moved]

end Bridge

namespace Binding

variable {binding next : Binding} {disk nextDisk : Disk} {request : CatalogRequest}
  {reply : CatalogReply}

theorem isOpen_serve (served : binding.serve disk request = (.ok reply, next, nextDisk)) :
    next.connector.shutdowns = 0 := by
  have isOpen := isOpen_of_serve served
  obtain ⟨working, _, kept, replaced⟩ := serve_eq_ok served
  cases working with
  | none =>
      obtain ⟨rfl, _⟩ := kept rfl
      exact isOpen
  | some after =>
      obtain ⟨rfl, _⟩ := replaced _ rfl
      exact (Connector.shutdowns_commit _ _ _).trans isOpen

/-- While the connector is in use, a question is answered from its store. -/
theorem serve_of_asked {outcome : Except Fault CatalogReply}
    (isOpen : binding.connector.shutdowns = 0)
    (asked : binding.bridge.serve (.ok (binding.connector.committed disk)) request =
      outcome.map fun reply => (reply, none)) :
    binding.serve disk request = (outcome, binding, disk) := by
  rw [Binding.serve, Connector.begin_of_inUse isOpen, asked]
  cases outcome <;> rfl

/-- After an operation that succeeds, questions are answered from the copy that it leaves, if
any. -/
theorem exists_serve_asked (served : binding.serve disk request = (.ok reply, next, nextDisk)) :
    ∃ working,
      binding.bridge.serve (.ok (binding.connector.committed disk)) request =
        .ok (reply, working) ∧
      ∀ question outcome,
        binding.bridge.serve (.ok (working.getD (binding.connector.committed disk))) question =
            outcome.map (fun answer => (answer, none)) →
          next.serve nextDisk question = (outcome, next, nextDisk) := by
  have isOpen := isOpen_serve served
  obtain ⟨working, answered, bridge, committed⟩ := committed_serve served
  refine ⟨working, answered, fun question outcome asked => serve_of_asked isOpen ?_⟩
  rwa [bridge, committed]

/-- Callers read their writes.  On every reachable store, a schema that was created is loaded
with the comment and the properties that were given.  A table that was created is loaded, under
the last segment of its name, as what was built of its definition reads.  A table that was altered
is loaded under the name that it has then, and not under the one before if that is another. -/
theorem serve_reads_back (reachable : (binding.connector.committed disk).Reachable) :
    (∀ name comment properties schema next nextDisk,
      binding.serve disk (.createSchema name comment properties) =
          (.ok (.schema schema), next, nextDisk) →
        next.serve nextDisk (.loadSchema name) = (.ok (.schema schema), next, nextDisk) ∧
          schema.comment = comment ∧ schema.properties = properties) ∧
    (∀ name table policy shown next nextDisk,
      binding.serve disk (.createTable name table policy) =
          (.ok (.table shown), next, nextDisk) →
        next.serve nextDisk (.loadTable name) = (.ok (.table shown), next, nextDisk) ∧
          shown.name = name.last ∧
          ∃ stored, binding.bridge.adapter.buildTable (policy.getD binding.bridge.policy)
              { table with name := name.last } = .ok stored ∧
            binding.bridge.adapter.parseTable stored = .ok shown) ∧
    ∀ name changes shown next nextDisk,
      binding.serve disk (.alterTable name changes) = (.ok (.table shown), next, nextDisk) →
        next.serve nextDisk (.loadTable (name.withLast shown.name)) =
            (.ok (.table shown), next, nextDisk) ∧
          (shown.name ≠ name.last → next.serve nextDisk (.loadTable name) =
            (.error (.notFound .table name.display), next, nextDisk)) := by
  obtain ⟨picture, shows⟩ := reachable.exists_shows
  refine ⟨fun name comment properties schema next nextDisk served => ?_,
    fun name table policy shown next nextDisk served => ?_,
    fun name changes shown next nextDisk served => ?_⟩
  · obtain ⟨_, answered, asks⟩ := exists_serve_asked served
    obtain ⟨_, after, created, answer, rfl⟩ := Bridge.changed_eq_ok answered
    cases answer
    obtain ⟨loaded, given⟩ := Bridge.loadSchema_of_createSchema shows created
    exact ⟨asks _ _ (by rw [Option.getD_some, Bridge.serve, loaded]; rfl), given⟩
  · obtain ⟨_, answered, asks⟩ := exists_serve_asked served
    obtain ⟨_, after, created, answer, rfl⟩ := Bridge.changed_eq_ok answered
    cases answer
    obtain ⟨loaded, built⟩ := Bridge.loadTable_of_createTable shows created
    exact ⟨asks _ _ (by rw [Option.getD_some, Bridge.serve, loaded]; rfl), built⟩
  · obtain ⟨_, answered, asks⟩ := exists_serve_asked served
    obtain ⟨_, after, altered, answer, rfl⟩ := Bridge.changed_eq_ok answered
    cases answer
    obtain ⟨loaded, missing⟩ := Bridge.loadTable_of_alterTable shows altered
    refine ⟨asks _ _ (by rw [Option.getD_some, Bridge.serve, loaded]; rfl), fun moved => ?_⟩
    exact asks _ _ (by rw [Option.getD_some, Bridge.serve, missing moved]; rfl)

/-- A definition under another name than that of the table to be, with a sort order. -/
def sortedTable : TableDefinition where
  name := "draft"
  columns := [{ name := "x", type := .integer }, { name := "y", type := .varchar 5 }]
  properties := .ofList [("location", "file:/v"), ("owner", "z")]
  layout := {
    sortOrders := [⟨"y", .descending, .nullsLast⟩]
    distribution := some ⟨.hash, 4, ["x"]⟩ }

/-- A schema and a table are created beside the one of `withTable`, or it is renamed. -/
theorem withTable_reads_back :
    ∃ schema first shown second renamed third,
      withTable.serve {} (.createSchema (.ofSchema "m" "c" "w") (some "new")
          (.ofList [("location", "file:/w")])) = (.ok (.schema schema), first, {}) ∧
        first.serve {} (.loadSchema (.ofSchema "m" "c" "w")) =
          (.ok (.schema schema), first, {}) ∧
        schema.comment = some "new" ∧ schema.properties = .ofList [("location", "file:/w")] ∧
      withTable.serve {} (.createTable (.ofTable "m" "c" "s" "v") sortedTable
          (some .required)) = (.ok (.table shown), second, {}) ∧
        second.serve {} (.loadTable (.ofTable "m" "c" "s" "v")) =
          (.ok (.table shown), second, {}) ∧
        shown.name = "v" ∧
      withTable.serve {} (.alterTable (.ofTable "m" "c" "s" "t") [.renameTable "u"]) =
          (.ok (.table renamed), third, {}) ∧
        third.serve {} (.loadTable (.ofTable "m" "c" "s" "u")) =
          (.ok (.table renamed), third, {}) ∧
        third.serve {} (.loadTable (.ofTable "m" "c" "s" "t")) =
          (.error (.notFound .table "m.c.s.t"), third, {}) := by
  obtain ⟨createsSchema, createsTable, alters⟩ := serve_reads_back reachable_withTable
  obtain ⟨schema, first, created⟩ : ∃ schema first,
      withTable.serve {} (.createSchema (.ofSchema "m" "c" "w") (some "new")
        (.ofList [("location", "file:/w")])) = (.ok (.schema schema), first, {}) := ⟨_, _, rfl⟩
  obtain ⟨shown, second, filled⟩ : ∃ shown second,
      withTable.serve {} (.createTable (.ofTable "m" "c" "s" "v") sortedTable
        (some .required)) = (.ok (.table shown), second, {}) := ⟨_, _, rfl⟩
  obtain ⟨renamed, third, altered, named⟩ : ∃ renamed third,
      withTable.serve {} (.alterTable (.ofTable "m" "c" "s" "t") [.renameTable "u"]) =
        (.ok (.table renamed), third, {}) ∧ renamed.name = "u" := ⟨_, _, rfl, rfl⟩
  obtain ⟨loadedSchema, comment, properties⟩ := createsSchema _ _ _ _ _ _ created
  obtain ⟨loadedTable, last, _⟩ := createsTable _ _ _ _ _ _ filled
  obtain ⟨loaded, missing⟩ := alters _ _ _ _ _ altered
  rw [named] at loaded missing
  exact ⟨schema, first, shown, second, renamed, third, created, loadedSchema, comment, properties,
    filled, loadedTable, last, altered, loaded, missing (by decide)⟩

end Binding

end CatalogGateway
