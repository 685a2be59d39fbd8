import CatalogGateway.Proofs.Store.Reachable

/-!
# Calls on other tables

A call that does not address a table leaves it as it is, or drops it with its schema; its
number is not given out again.
-/

namespace CatalogGateway

/-- The handle of the table that a call addresses. -/
def StoreCall.handle? : StoreCall → Option TableHandle
  | .tableMetadata handle | .columnHandles handle | .dropTable handle | .renameTable handle _
  | .addColumn handle _ _ | .dropColumn handle _ | .renameColumn handle _ _
  | .setColumnType handle _ _ | .setColumnComment handle _ _ | .setTableComment handle _
  | .setTableProperties handle _ => some handle
  | _ => none

namespace MemoryStore

variable {store after : MemoryStore} {id : Nat}

/-- The table of a number is as it was before, if it is there, and no number is given out
again. -/
structure Retains (store after : MemoryStore) (id : Nat) : Prop where
  numbers : store.lastTableId ≤ after.lastTableId
  table : ∀ table, after.tables.lookup id = some table → store.tables.lookup id = some table

namespace Retains

theorem refl (store : MemoryStore) (id : Nat) : Retains store store id :=
  ⟨Nat.le_refl _, fun _ found => found⟩

theorem guarded {α : Type} {checked : Except StoreFault α} {change : α → MemoryStore}
    (retains : ∀ value, Retains store (change value) id) :
    Retains store (MetadataStore.guarded store checked change).2 id := by
  cases checked with
  | error fault => exact refl store id
  | ok value => exact retains value

theorem mapTable {other : Nat} (different : other ≠ id) (change : MemoryTable → MemoryTable) :
    Retains store (store.mapTable other change) id where
  numbers := Nat.le_refl _
  table table found := by rwa [lookup_mapTable, if_neg different.symm] at found

theorem filter (sound : store.Sound) (keep : Nat × MemoryTable → Bool)
    (schemas : Dictionary EngineProperties) :
    Retains store { store with schemas, tables := store.tables.filter keep } id where
  numbers := Nat.le_refl _
  table _ found := ((sound.lookup_filter keep).mp found).1

theorem addTable (sound : store.Sound) (given : id ≤ store.lastTableId) (table : MemoryTable) :
    Retains store (store.addTable table) id where
  numbers := Nat.le_succ _
  table held found := by
    rwa [sound.lookup_addTable, if_neg (by omega)] at found

/-- A call on a sound store that does not address a table retains it. -/
theorem run (sound : store.Sound) (given : id ≤ store.lastTableId) (call : StoreCall)
    (other : ∀ handle, call.handle? = some handle → handle.id ≠ id) :
    Retains store (call.run store).2 id := by
  cases call with
  | schemaNames | hasSchema _ | schemaProperties _ | tableNames _ | tableHandle _
  | tableMetadata _ | columnHandles _ => exact refl store id
  | createSchema schema properties =>
      exact guarded fun _ => ⟨Nat.le_refl _, fun _ found => found⟩
  | dropSchema schema cascade => exact guarded fun _ => filter sound _ _
  | createTable schema table =>
      exact guarded fun _ => addTable sound given (.ofEngine schema table)
  | dropTable handle => exact guarded fun _ => filter sound _ _
  | _ => exact guarded fun _ => mapTable (other _ rfl) _

end Retains

end MemoryStore

namespace Store

variable {store : Store} {picture : MemoryStore} {id : Nat}

/-- Whatever is called, if it does not address a table, the picture afterwards retains it. -/
theorem Shows.run_elsewhere (shows : store.Shows picture) (given : id ≤ picture.lastTableId)
    (call : StoreCall) (other : ∀ handle, call.handle? = some handle → handle.id ≠ id) :
    ∃ after, (call.run store).2.Shows after ∧ picture.Retains after id := by
  cases store with
  | memory store =>
      obtain ⟨rfl, sound⟩ := shows
      rw [StoreCall.run_memory]
      exact ⟨_, ⟨rfl, sound.run call⟩, .run sound given call other⟩
  | relational rows =>
      have shown : rows.Shows picture := shows
      rw [StoreCall.run_relational]
      cases shown.mirrors call with
      | alike _ depicts => exact ⟨_, shown.next depicts, .run shown.sound given call other⟩
      | illegible _ _ _ answer _ =>
          rw [answer]
          exact ⟨picture, shows, .refl picture id⟩
      | abandoned accepted _ _ _ depicts =>
          exact ⟨_, shown.addLeading accepted depicts, .addTable shown.sound given _⟩
  | «sealed» kept =>
      rw [StoreCall.run_sealed]
      exact ⟨picture, shows, .refl picture id⟩

end Store

end CatalogGateway
