import CatalogGateway.Proofs.Store.Contents
import CatalogGateway.Proofs.Store.Histories
import CatalogGateway.Proofs.Store.Legibility

/-!
# Invariants of stores

Whatever is done in a session, no two tables of a store have the same name or the same number,
each table lies in a schema that there is, no two of its columns have the same name, no number
is above the last one given out, and a limit on the tables is kept.  The columns of a table are
listed in the order in which the table is described, unless the store keeps the type of one of
them as a text that nests too deeply to be read.
-/

namespace CatalogGateway

open MetadataStore

namespace MemoryStore

/-- The numbers of the tables with their names. -/
def handles (store : MemoryStore) : List TableHandle :=
  store.tables.map fun entry => ⟨entry.1, entry.2.name⟩

/-- The names of the columns of the table of a number, in order. -/
def columnNames (store : MemoryStore) (id : Nat) : List String :=
  (store.columnsAt id).map EngineColumn.name

variable {store : MemoryStore}

namespace Sound

theorem mem_handles_iff (sound : store.Sound) {handle : TableHandle} :
    handle ∈ store.handles ↔
      ∃ table, store.tables.lookup handle.id = some table ∧ table.name = handle.name := by
  simp only [handles, List.mem_map, Prod.exists, sound.mem_iff]
  constructor
  · rintro ⟨id, table, found, rfl⟩
    exact ⟨table, found, rfl⟩
  · rintro ⟨table, found, named⟩
    exact ⟨handle.id, table, found, by rw [named]⟩

theorem names_nodup (sound : store.Sound) : (store.handles.map TableHandle.name).Nodup := by
  rw [handles, List.map_map]
  refine (sound.ids_nodup.of_map Prod.fst).map_on ?_
  rintro ⟨id, table⟩ inStore ⟨other, otherTable⟩ otherInStore same
  have found := sound.mem_iff.mp inStore
  have otherFound := sound.mem_iff.mp otherInStore
  obtain rfl := sound.names found otherFound same
  cases found.symm.trans otherFound
  rfl

theorem columnNames_nodup (sound : store.Sound) (id : Nat) : (store.columnNames id).Nodup := by
  rw [columnNames, columnsAt]
  cases found : store.tables.lookup id with
  | none => exact List.nodup_nil
  | some table => exact sound.columns found

end Sound

end MemoryStore

namespace Metastore

def handles (store : Metastore) : List TableHandle :=
  store.tables.map fun row => ⟨row.id, row.schemaTable⟩

def columnNames (store : Metastore) (id : Nat) : List String :=
  (store.orderedColumns id).map ColumnRow.name

/-- The type of every column of a table can be read back. -/
def Readable (store : Metastore) (id : Nat) : Prop :=
  ∀ row ∈ store.columnsOf id, row.type.depth ≤ maxLevels

instance (store : Metastore) (id : Nat) : Decidable (store.Readable id) :=
  inferInstanceAs (Decidable (∀ row ∈ store.columnsOf id, row.type.depth ≤ maxLevels))

namespace Depicts

variable {store : Metastore} {picture : MemoryStore}

theorem handles (depicts : store.Depicts picture) : store.handles = picture.handles := by
  rw [Metastore.handles, depicts.tables, List.map_map]
  rfl

theorem columnNames (depicts : store.Depicts picture) (id : Nat) :
    store.columnNames id = picture.columnNames id := by
  rw [Metastore.columnNames, orderedColumns, ColumnRow.mergeSort_eq (depicts.columns id),
    ColumnRow.map_name_rowsFrom, MemoryStore.columnNames]

theorem readable_iff (depicts : store.Depicts picture) {id : Nat} {table : MemoryTable}
    (found : picture.tables.lookup id = some table) : store.Readable id ↔ table.Legible := by
  have stands := depicts.columns id
  rw [MemoryStore.columnsAt, found] at stands
  have types : ((store.columnsOf id).map ColumnRow.type).Perm
      (table.columns.map fun column => column.type.toJson) :=
    (stands.map ColumnRow.type).trans (List.Perm.of_eq ColumnRow.map_type_rowsFrom)
  have members : (∀ type ∈ (store.columnsOf id).map ColumnRow.type, type.depth ≤ maxLevels) ↔
      ∀ type ∈ table.columns.map fun column => column.type.toJson, type.depth ≤ maxLevels :=
    forall_congr' fun type => imp_congr_left types.mem_iff
  simpa [Readable, MemoryTable.Legible, EngineType.Legible] using members

end Depicts

end Metastore

namespace Store

/-- The number and the name of each table, as a handle of it. -/
def handles : Store → List TableHandle
  | .memory store => store.handles
  | .relational store => store.handles
  | .sealed kept => kept.store.handles

/-- The number of the last table that was made. -/
def lastTableId : Store → Nat
  | .memory store => store.lastTableId
  | .relational store => store.lastTableId
  | .sealed kept => kept.store.lastTableId

/-- The names of the columns of the table of a number, in order. -/
def columnNames : Store → Nat → List String
  | .memory store => store.columnNames
  | .relational store => store.columnNames
  | .sealed kept => kept.store.columnNames

/-- The largest number of tables, if there is one. -/
def maxTables : Store → Option Nat
  | .memory store => store.maxTables
  | .relational _ | .sealed _ => none

/-- No column of a table has a type that cannot be read back.  A store in memory reads none. -/
def Readable : Store → Nat → Prop
  | .memory _, _ => True
  | .relational store, id => store.Readable id
  | .sealed kept, id => kept.store.Readable id

/-- What holds of a store that may hold so many tables, in every state that it comes to. -/
structure WellFormed (limit : Option Nat) (store : Store) : Prop where
  /-- No two tables have the same name. -/
  names : (store.handles.map TableHandle.name).Nodup
  /-- No two tables have the same number. -/
  ids : (store.handles.map TableHandle.id).Nodup
  /-- The tables are those that are found by their names. -/
  found (handle : TableHandle) :
    handle ∈ store.handles ↔ tableHandle? store handle.name = some handle
  schemas : ∀ handle ∈ store.handles, hasSchema store handle.name.schema = true
  counted : ∀ handle ∈ store.handles, handle.id ≤ store.lastTableId
  columns (id : Nat) : (store.columnNames id).Nodup
  /-- The columns are listed as they are described, under the indices from 0 on. -/
  listed : ∀ handle ∈ store.handles, store.Readable handle.id →
    (∃ table, tableMetadata store handle = .ok table ∧
      table.columns.map EngineColumn.name = store.columnNames handle.id) ∧
    columnHandles store handle =
      .ok ((store.columnNames handle.id).mapIdx fun ordinal name => ⟨name, ordinal⟩)
  /-- Types that cannot be read back keep the table from being described and the columns from
  being listed, with the same fault. -/
  unlisted : ∀ handle ∈ store.handles, ¬ store.Readable handle.id →
    ∃ fault, tableMetadata store handle = .error fault ∧
      columnHandles store handle = .error fault
  room : ∀ most, limit = some most → store.handles.length ≤ most

instance (store : Store) (id : Nat) : Decidable (store.Readable id) :=
  match store with
  | .memory _ => instDecidableTrue
  | .relational store => inferInstanceAs (Decidable (store.Readable id))
  | .sealed kept => inferInstanceAs (Decidable (kept.store.Readable id))

variable {store : Store} {picture : MemoryStore} {handle : TableHandle}

namespace Shows

theorem handles (shows : store.Shows picture) : store.handles = picture.handles := by
  cases store with
  | memory store => exact congrArg MemoryStore.handles shows.1
  | relational store => exact Metastore.Depicts.handles shows.depicts
  | «sealed» kept => exact Metastore.Depicts.handles shows.depicts

theorem mem_handles_iff (shows : store.Shows picture) : handle ∈ store.handles ↔
    ∃ table, picture.tables.lookup handle.id = some table ∧ table.name = handle.name := by
  rw [shows.handles, shows.sound.mem_handles_iff]

theorem lastTableId (shows : store.Shows picture) : store.lastTableId = picture.lastTableId := by
  cases store with
  | memory store => exact congrArg MemoryStore.lastTableId shows.1
  | relational store => exact shows.depicts.lastTableId
  | «sealed» kept => exact shows.depicts.lastTableId

theorem columnNames (shows : store.Shows picture) (id : Nat) :
    store.columnNames id = picture.columnNames id := by
  cases store with
  | memory store => exact congrArg (MemoryStore.columnNames · id) shows.1
  | relational store => exact shows.depicts.columnNames id
  | «sealed» kept => exact shows.depicts.columnNames id

theorem hasSchema (shows : store.Shows picture) (schema : String) :
    MetadataStore.hasSchema store schema = picture.schemas.contains schema := by
  cases store with
  | memory store => exact congrArg (fun held => held.schemas.contains schema) shows.1
  | relational store => exact shows.depicts.containsSchema schema
  | «sealed» kept => exact shows.depicts.containsSchema schema

theorem readable_iff (shows : store.Shows picture) {id : Nat} {table : MemoryTable}
    (found : picture.tables.lookup id = some table) :
    store.Readable id ↔ (store.keepsTexts = true → table.Legible) := by
  cases store with
  | memory store => exact iff_of_true trivial nofun
  | relational store =>
      exact (shows.depicts.readable_iff found).trans (by simp [keepsTexts])
  | «sealed» kept =>
      exact (shows.depicts.readable_iff found).trans (by simp [keepsTexts])

end Shows

/-- A store that shows a sound one is well formed. -/
theorem Shows.wellFormed (shows : store.Shows picture) : store.WellFormed store.maxTables where
  names := shows.handles ▸ shows.sound.names_nodup
  ids := by
    rw [shows.handles, MemoryStore.handles, List.map_map]
    exact shows.sound.ids_nodup
  found handle := by
    rw [shows.mem_handles_iff, simulation_shows.tableHandle? shows,
      shows.sound.tableHandle?_eq_some_iff]
    simp
  schemas handle member := by
    obtain ⟨table, found, named⟩ := shows.mem_handles_iff.mp member
    rw [shows.hasSchema, ← named]
    exact shows.sound.schemas found
  counted handle member := by
    obtain ⟨table, found, _⟩ := shows.mem_handles_iff.mp member
    rw [shows.lastTableId]
    exact shows.sound.given found
  columns id := shows.columnNames id ▸ shows.sound.columnNames_nodup id
  listed handle member readable := by
    obtain ⟨table, found, named⟩ := shows.mem_handles_iff.mp member
    have described : tableMetadata store handle = .ok table.metadata :=
      (tableMetadata_eq_ok_iff shows).mpr
        ⟨table, MemoryStore.table_eq_ok_iff.mpr ⟨found, named⟩,
          (shows.readable_iff found).mp readable, rfl⟩
    have names : table.columns.map EngineColumn.name = store.columnNames handle.id := by
      rw [shows.columnNames, MemoryStore.columnNames, MemoryStore.columnsAt, found]
      rfl
    refine ⟨⟨table.metadata, described, names⟩, ?_⟩
    rw [columnHandles_eq, described, ← names]
    exact congrArg Except.ok (List.ext_getElem (by simp [MemoryTable.metadata]) (by
      simp [MemoryTable.metadata]))
  unlisted handle member unreadable := by
    cases described : tableMetadata store handle with
    | error fault => exact ⟨fault, rfl, by rw [columnHandles_eq, described]; rfl⟩
    | ok stored =>
        obtain ⟨table, found, legible, _⟩ := (tableMetadata_eq_ok_iff shows).mp described
        have present := (MemoryStore.table_eq_ok_iff.mp found).1
        exact absurd ((shows.readable_iff present).mpr legible) unreadable
  room most limited := by
    cases store with
    | memory store =>
        rw [shows.handles, MemoryStore.handles, List.length_map]
        obtain ⟨rfl, sound⟩ := shows
        exact sound.room most limited
    | relational _ => cases limited
    | «sealed» _ => cases limited

theorem maxTables_run (store : Store) (call : StoreCall) :
    (call.run store).2.maxTables = store.maxTables := by
  cases store with
  | memory store =>
      rw [StoreCall.run_memory]
      exact store.maxTables_run call
  | relational store => rw [StoreCall.run_relational]; rfl
  | «sealed» kept => rw [StoreCall.run_sealed]

end Store

namespace Connector

variable {connector : Connector} {disk : Disk}

/-- The largest number of tables that a connector accepts, if there is one. -/
def tableLimit (connector : Connector) : Option Nat :=
  match connector.backend with
  | .memory store => store.maxTables
  | .embedded _ | .kept _ => none

theorem maxTables_committed : (connector.committed disk).maxTables = connector.tableLimit := by
  obtain ⟨name, backend, shutdowns⟩ := connector
  cases backend with
  | memory store => rfl
  | embedded store => rfl
  | kept access =>
      show Store.maxTables (if access.isReadOnly then _ else _) = none
      split <;> rfl

theorem tableLimit_commit {working : Store} (limited : working.maxTables = connector.tableLimit) :
    (connector.commit disk working).1.tableLimit = connector.tableLimit := by
  obtain ⟨name, backend, shutdowns⟩ := connector
  cases backend <;> cases working <;> first | rfl | exact limited

theorem tableLimit_shutdown : connector.shutdown.tableLimit = connector.tableLimit := by
  obtain ⟨name, backend, shutdowns⟩ := connector
  cases backend <;> rfl

end Connector

namespace Session

variable {session next : Session} {step : SessionStep} {answer : Except StoreFault StoreReply}
  {limit : Option Nat}

/-- The connector and the open transaction accept so many tables. -/
structure LimitedTo (limit : Option Nat) (session : Session) : Prop where
  connector : session.connector.tableLimit = limit
  working : ∀ store, session.working = some store → store.maxTables = limit

theorem LimitedTo.take? (limited : session.LimitedTo limit)
    (taken : session.take? step = some (answer, next)) : next.LimitedTo limit := by
  cases step with
  | begin =>
      cases taken
      rw [begin_eq]
      split
      · exact ⟨limited.connector, nofun⟩
      · refine ⟨limited.connector, fun store opened => ?_⟩
        cases opened
        exact Connector.maxTables_committed.trans limited.connector
  | call call =>
      obtain ⟨store, opened, rfl, rfl⟩ := call?_eq_some_iff.mp taken
      refine ⟨limited.connector, fun after same => ?_⟩
      cases same
      exact (store.maxTables_run call).trans (limited.working store opened)
  | commit =>
      obtain ⟨after, closed, same⟩ := Option.map_eq_some_iff.mp taken
      cases same
      obtain ⟨working, opened, rfl⟩ := commit?_eq_some_iff.mp closed
      have same := (limited.working working opened).trans limited.connector.symm
      exact ⟨(Connector.tableLimit_commit same).trans limited.connector, nofun⟩
  | rollback =>
      cases taken
      exact ⟨limited.connector, nofun⟩
  | shutdown =>
      cases taken
      exact ⟨Connector.tableLimit_shutdown.trans limited.connector, nofun⟩

/-- Whatever is done in a session that begins on a reachable store, its stores are well formed
and keep the limit of the connector. -/
theorem wellFormed_of_runs {connector : Connector} {disk : Disk} {history : History}
    {session : Session} {store : Store} (reachable : (connector.committed disk).Reachable)
    (runs : (start connector disk).Runs history session) (held : session.Holds store) :
    store.WellFormed connector.tableLimit := by
  obtain ⟨picture, shows⟩ :=
    (((Sound.start reachable).runs runs).reachable held).exists_shows
  have started : (start connector disk).LimitedTo connector.tableLimit := ⟨rfl, nofun⟩
  have limited := runs.invariant LimitedTo.take? started
  have same : store.maxTables = connector.tableLimit := by
    rcases held with rfl | opened
    · rw [Connector.maxTables_committed, limited.connector]
    · exact limited.working store opened
  exact same ▸ shows.wellFormed

/-- A type that nests so many times. -/
def nestedType : Nat → EngineType
  | 0 => .integer
  | levels + 1 => .array (nestedType levels)

/-- A table whose column has a type that nests too deeply. -/
def deepTable : EngineTable where
  name := "t"
  columns := [{ name := "x", type := nestedType 128 }]

/-- A session in which a table is made that its store cannot describe. -/
def deepHistory : History := [
  (.begin, .ok .done),
  (.call (.createSchema "s" .empty), .ok .done),
  (.call (.createTable "s" deepTable), .ok (.created ⟨1, ⟨"s", "t"⟩⟩))]

/-- The store with the table, as the open transaction has it. -/
def deepStore : Store :=
  ((StoreCall.createTable "s" deepTable).run
    ((StoreCall.createSchema "s" .empty).run (Store.relational {})).2).2

theorem wellFormed_deepHistory : ∃ session fault,
    (start { name := "r", backend := .embedded {} } {}).Runs deepHistory session ∧
      session.Holds deepStore ∧ deepStore.WellFormed none ∧
      ⟨1, ⟨"s", "t"⟩⟩ ∈ deepStore.handles ∧
      columnHandles deepStore ⟨1, ⟨"s", "t"⟩⟩ = .error fault := by
  let session : Session :=
    { connector := { name := "r", backend := .embedded {} }, disk := {}, working := deepStore }
  have runs : (start session.connector session.disk).Runs deepHistory session :=
    .step rfl (.step rfl (.step rfl (.stay _)))
  have reachable : (session.connector.committed session.disk).Reachable := .relational
  have held : session.Holds deepStore := .inr rfl
  have wellFormed : deepStore.WellFormed none := wellFormed_of_runs reachable runs held
  have member : ⟨1, ⟨"s", "t"⟩⟩ ∈ deepStore.handles := by decide
  have unreadable : ¬ deepStore.Readable 1 := by decide +kernel
  obtain ⟨fault, _, unlisted⟩ := wellFormed.unlisted _ member unreadable
  exact ⟨session, fault, runs, held, wellFormed, member, unlisted⟩

end Session

end CatalogGateway
