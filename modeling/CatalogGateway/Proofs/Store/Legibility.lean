import CatalogGateway.Proofs.Store.Refinement
import CatalogGateway.Proofs.Store.Transactions

/-!
# Legible tables

A store that keeps the types of columns as texts describes a table only if it can read all of
them back.  A store in memory describes every table that it has.
-/

namespace CatalogGateway

open MetadataStore

namespace Metastore

variable {store : Metastore} {picture : MemoryStore} {handle : TableHandle}

theorem tableMetadata_eq_ok_iff (depicts : store.Depicts picture) {stored : EngineTable} :
    tableMetadata store handle = .ok stored ↔
      ∃ table, picture.table handle = .ok table ∧ table.Legible ∧ table.metadata = stored := by
  have reads : tableMetadata store handle = store.resolve handle >>= fun found =>
      store.readColumns handle.id >>= fun columns =>
        .ok ⟨found.1.name, columns, found.1.comment, found.2⟩ := rfl
  rw [reads]
  cases found : picture.table handle with
  | error fault =>
      rw [depicts.resolve_of_error found]
      simp [bind, Except.bind]
  | ok table =>
      rw [depicts.resolve_of_table found, Outcome.bind_eq_ok_iff]
      simp only [Except.ok.injEq, exists_eq_left', Outcome.bind_eq_ok_iff,
        depicts.readColumns_eq_ok_iff found]
      constructor
      · rintro ⟨_, ⟨legible, rfl⟩, same⟩
        exact ⟨legible, same⟩
      · rintro ⟨legible, same⟩
        exact ⟨table.columns, ⟨legible, rfl⟩, same⟩

theorem columnHandles_eq (store : Metastore) (handle : TableHandle) :
    columnHandles store handle = (tableMetadata store handle).map fun table =>
      table.columns.mapIdx fun ordinal column => ⟨column.name, ordinal⟩ := by
  have described : tableMetadata store handle = store.resolve handle >>= fun found =>
      store.readColumns handle.id >>= fun columns =>
        .ok ⟨found.1.name, columns, found.1.comment, found.2⟩ := rfl
  have listed : columnHandles store handle = store.resolve handle >>= fun _ =>
      store.readColumns handle.id >>= fun columns =>
        .ok (columns.mapIdx fun ordinal column => ⟨column.name, ordinal⟩) := rfl
  rw [described, listed]
  cases store.resolve handle with
  | error fault => rfl
  | ok found => cases store.readColumns handle.id <;> rfl

end Metastore

namespace Store

/-- Whether the types of columns are kept as texts. -/
def keepsTexts : Store → Bool
  | memory _ => false
  | relational _ | «sealed» _ => true

variable {store : Store} {picture : MemoryStore} {handle : TableHandle}

theorem keepsTexts_run (store : Store) (call : StoreCall) :
    (call.run store).2.keepsTexts = store.keepsTexts := by
  cases store with
  | memory store => exact congrArg (keepsTexts ·.2) (StoreCall.run_memory call store)
  | relational store => exact congrArg (keepsTexts ·.2) (StoreCall.run_relational call store)
  | «sealed» store => exact congrArg (keepsTexts ·.2) (StoreCall.run_sealed call store)

/-- What a store describes is a table of its picture, which is legible if the store keeps
texts. -/
theorem tableMetadata_eq_ok_iff (shows : store.Shows picture) {stored : EngineTable} :
    tableMetadata store handle = .ok stored ↔
      ∃ table, picture.table handle = .ok table ∧ (store.keepsTexts = true → table.Legible) ∧
        table.metadata = stored := by
  cases store with
  | memory store =>
      obtain ⟨rfl, _⟩ := shows
      have reads : tableMetadata (memory store) handle =
          (store.table handle).map MemoryTable.metadata := rfl
      simp [reads, Outcome.map_eq_ok_iff, keepsTexts]
  | relational store =>
      refine (Metastore.tableMetadata_eq_ok_iff shows.depicts).trans ?_
      simp [keepsTexts]
  | «sealed» kept =>
      refine (Metastore.tableMetadata_eq_ok_iff shows.depicts).trans ?_
      simp [keepsTexts]

/-- The columns that a store lists of a table are those that it describes. -/
theorem columnHandles_eq (store : Store) (handle : TableHandle) :
    columnHandles store handle = (tableMetadata store handle).map fun table =>
      table.columns.mapIdx fun ordinal column => ⟨column.name, ordinal⟩ := by
  cases store with
  | memory store =>
      have described : tableMetadata (memory store) handle =
        (store.table handle).map MemoryTable.metadata := rfl
      have listed : columnHandles (memory store) handle =
        (store.table handle).map fun table =>
          table.columns.mapIdx fun ordinal column => ⟨column.name, ordinal⟩ := rfl
      rw [described, listed]
      cases store.table handle <;> rfl
  | relational store => exact Metastore.columnHandles_eq store handle
  | «sealed» kept => exact Metastore.columnHandles_eq kept.store handle

theorem exists_tableMetadata {handles : List ColumnHandle}
    (reads : columnHandles store handle = .ok handles) :
    ∃ stored, tableMetadata store handle = .ok stored := by
  rw [columnHandles_eq] at reads
  obtain ⟨stored, described, _⟩ := Outcome.map_eq_ok_iff.mp reads
  exact ⟨stored, described⟩

/-- What a store shows, together with how it keeps types, is simulated. -/
theorem simulation_keeping (texts : Bool) :
    Simulation fun (store : Store) (picture : MemoryStore) =>
      store.Shows picture ∧ store.keepsTexts = texts :=
  simulation_shows.and fun store call keeps => (keepsTexts_run store call).trans keeps

end Store

end CatalogGateway
