import CatalogGateway.Proofs.Store.Contents
import CatalogGateway.Proofs.Store.Elsewhere
import CatalogGateway.Proofs.Store.Refinement

/-!
# Checks of handles

Whatever is called with a handle, the handle is checked first: it is refused if its number has
no table, and if the table has another name than the handle.  A handle that passes is not
refused later on, whatever else the call may be refused for.
-/

namespace CatalogGateway

/-- Whether a fault refuses a handle. -/
def StoreFault.refusesHandle : StoreFault → Bool
  | tableNotFound _ | staleHandle _ _ => true
  | _ => false

namespace Outcome

variable {α β γ : Type}

/-- If this fails, it is not because of a handle. -/
def Accepts (outcome : Except StoreFault α) : Prop :=
  ∀ fault, outcome = .error fault → fault.refusesHandle = false

@[simp]
theorem accepts_ok (value : α) : Accepts (.ok value) :=
  Raises.ok value

@[simp]
theorem accepts_error {fault : StoreFault} :
    Accepts (.error fault : Except StoreFault α) ↔ fault.refusesHandle = false := by
  simp [Accepts]

theorem Accepts.bind {outcome : Except StoreFault α} {next : α → Except StoreFault β}
    (accepts : Accepts outcome) (nexts : ∀ value, Accepts (next value)) :
    Accepts (outcome >>= next) :=
  Raises.bind accepts nexts

theorem Accepts.mapM {check : α → Except StoreFault β} (accepts : ∀ value, Accepts (check value))
    (list : List α) : Accepts (list.mapM check) :=
  Raises.mapM accepts list

/-- An answer starts with a check of a handle: it fails as the check does, and for no reason that
refuses a handle after that. -/
structure Checked (check : Except StoreFault α) (answer : Except StoreFault β) : Prop where
  refused : ∀ fault, check = .error fault → answer = .error fault
  accepted : ∀ found, check = .ok found → Accepts answer

namespace Checked

variable {check : Except StoreFault α} {answer : Except StoreFault β}

theorem self : Checked check check where
  refused _ failed := failed
  accepted found passed := by
    rw [passed]
    exact accepts_ok found

theorem bind {next : β → Except StoreFault γ} (checked : Checked check answer)
    (nexts : ∀ value, Accepts (next value)) : Checked check (answer >>= next) where
  refused fault failed := by
    rw [checked.refused fault failed]
    rfl
  accepted found passed := (checked.accepted found passed).bind nexts

theorem map (change : β → γ) (checked : Checked check answer) :
    Checked check (answer.map change) := by
  have steps : answer.map change = answer >>= fun value => .ok (change value) := by
    cases answer <;> rfl
  rw [steps]
  exact checked.bind fun value => accepts_ok _

theorem guarded {σ : Type} {store : σ} {change : β → σ} (checked : Checked check answer) :
    Checked check (MetadataStore.guarded store answer change).1 := by
  have done : (MetadataStore.guarded store answer change).1 = answer.map fun _ => () := by
    cases answer <;> rfl
  rw [done]
  exact checked.map _

/-- A sealed store keeps the check of a change. -/
theorem refuse {kept : SealedStore} {outcome : Except StoreFault Unit × Metastore}
    (checked : Checked check (StoreCall.acknowledge outcome).1) :
    Checked check (StoreCall.acknowledge (kept.refuse outcome)).1 := by
  have refused : (StoreCall.acknowledge (kept.refuse outcome)).1 =
      (StoreCall.acknowledge outcome).1 >>= fun _ => .error SealedStore.refusal := by
    rw [SealedStore.refuse, StoreCall.acknowledge, StoreCall.acknowledge]
    cases outcome.1 <;> rfl
  rw [refused]
  exact checked.bind fun _ => accepts_error.mpr rfl

/-- A check that comes out as another does can stand in its place. -/
theorem of_agree {relation : α → γ → Prop} {other : Except StoreFault γ}
    (checked : Checked check answer) (agree : Agree relation check other) :
    Checked other answer := by
  match check, other, agree with
  | .error _, .error _, same =>
      cases same
      exact ⟨fun fault failed => checked.refused fault (by cases failed; rfl), nofun⟩
  | .ok found, .ok _, _ => exact ⟨nofun, fun _ _ => checked.accepted found rfl⟩

/-- Only the name of a handle itself is accepted. -/
theorem eq_name {handle : TableHandle} {name? : Option SchemaTable}
    (checked : Checked (handle.check id name?) answer) (accepts : Accepts answer) :
    name? = some handle.name := by
  cases name? with
  | none => exact absurd (accepts _ (checked.refused _ rfl)) Bool.noConfusion
  | some name =>
      by_cases same : name = handle.name
      · rw [same]
      · exact absurd (accepts _ (checked.refused _ (if_neg same))) Bool.noConfusion

end Checked

end Outcome

open Outcome

namespace MemoryStore

variable {store : MemoryStore} {table : MemoryTable} {column : String}

theorem accepts_requireColumn : Accepts (table.requireColumn column) := by
  rw [MemoryTable.requireColumn]
  split <;> simp [StoreFault.refusesHandle]

theorem accepts_requireUnused : Accepts (table.requireUnused column) := by
  rw [MemoryTable.requireUnused]
  split <;> simp [StoreFault.refusesHandle]

theorem accepts_newOrdinal {ordinal : Option Nat} : Accepts (table.newOrdinal ordinal) := by
  rw [MemoryTable.newOrdinal]
  split <;> simp [StoreFault.refusesHandle]

theorem accepts_requireSchema {schema : String} : Accepts (store.requireSchema schema) := by
  rw [requireSchema]
  split <;> simp [StoreFault.refusesHandle]

theorem accepts_requireFree {id : Option Nat} {name : SchemaTable} :
    Accepts (store.requireFree id name) := by
  rw [requireFree]
  split
  · exact accepts_ok _
  · split <;> simp [StoreFault.refusesHandle]

theorem checked_run {call : StoreCall} {handle : TableHandle}
    (addressed : call.handle? = some handle) :
    Checked (store.table handle) (call.run store).1 := by
  cases call with
  | schemaNames | hasSchema _ | schemaProperties _ | tableNames _ | tableHandle _
  | createSchema _ _ | dropSchema _ _ | createTable _ _ => cases addressed
  | tableMetadata _ | columnHandles _ =>
      cases addressed
      exact (Checked.self.map _).map _
  | dropTable _ | setTableComment _ _ | setTableProperties _ _ =>
      cases addressed
      exact Checked.self.guarded.map _
  | renameTable _ name =>
      cases addressed
      exact (Checked.self.bind fun _ =>
        accepts_requireSchema.bind fun _ => accepts_requireFree).guarded.map _
  | addColumn _ column ordinal =>
      cases addressed
      exact (Checked.self.bind fun _ =>
        accepts_requireUnused.bind fun _ => accepts_newOrdinal).guarded.map _
  | dropColumn _ _ | setColumnType _ _ _ | setColumnComment _ _ _ =>
      cases addressed
      exact (Checked.self.bind fun _ => accepts_requireColumn).guarded.map _
  | renameColumn _ column name =>
      cases addressed
      refine (Checked.self.bind fun _ => accepts_requireColumn.bind fun _ => ?_).guarded.map _
      split
      · exact accepts_ok _
      · exact accepts_requireUnused

end MemoryStore

namespace Metastore

variable {store : Metastore} {handle : TableHandle} {column : String}

theorem accepts_requireColumn : Accepts (store.requireColumn handle column) := by
  rw [requireColumn]
  split <;> simp [StoreFault.refusesHandle]

theorem accepts_requireUnused : Accepts (store.requireUnused handle column) := by
  rw [requireUnused]
  split <;> simp [StoreFault.refusesHandle]

theorem accepts_newOrdinal {ordinal : Option Nat} : Accepts (store.newOrdinal handle ordinal) := by
  rw [newOrdinal]
  split <;> simp [StoreFault.refusesHandle]

theorem accepts_requireSchema {schema : String} : Accepts (store.requireSchema schema) := by
  rw [requireSchema]
  split <;> simp [StoreFault.refusesHandle]

theorem accepts_requireFree {id : Option Nat} {name : SchemaTable} :
    Accepts (store.requireFree id name) := by
  rw [requireFree]
  split
  · exact accepts_ok _
  · split <;> simp [StoreFault.refusesHandle]

theorem accepts_readStored {α : Type} {decode : Json → Option α} {value : Json} :
    Accepts (readStored decode value) := by
  rw [readStored]
  split
  · simp [StoreFault.refusesHandle]
  · split <;> simp [StoreFault.refusesHandle]

theorem accepts_readColumns {id : Nat} : Accepts (store.readColumns id) :=
  Accepts.mapM (fun _ => accepts_readStored.bind fun _ => accepts_ok _) _

theorem checked_run {call : StoreCall} (addressed : call.handle? = some handle) :
    Checked (store.resolve handle) (call.run store).1 := by
  cases call with
  | schemaNames | hasSchema _ | schemaProperties _ | tableNames _ | tableHandle _
  | createSchema _ _ | dropSchema _ _ | createTable _ _ => cases addressed
  | tableMetadata _ | columnHandles _ =>
      cases addressed
      exact (Checked.self.bind fun _ => accepts_readColumns.bind fun _ => accepts_ok _).map _
  | dropTable _ | setTableComment _ _ | setTableProperties _ _ =>
      cases addressed
      exact Checked.self.guarded.map _
  | renameTable _ name =>
      cases addressed
      exact (Checked.self.bind fun _ =>
        accepts_requireSchema.bind fun _ => accepts_requireFree).guarded.map _
  | addColumn _ column ordinal =>
      cases addressed
      exact (Checked.self.bind fun _ =>
        accepts_requireUnused.bind fun _ => accepts_newOrdinal).guarded.map _
  | dropColumn _ _ | setColumnType _ _ _ | setColumnComment _ _ _ =>
      cases addressed
      exact (Checked.self.bind fun _ => accepts_requireColumn).guarded.map _
  | renameColumn _ column name =>
      cases addressed
      refine (Checked.self.bind fun _ => accepts_requireColumn.bind fun _ => ?_).guarded.map _
      split
      · exact accepts_ok _
      · exact accepts_requireUnused

end Metastore

/-- The name of the table of a number. -/
def MemoryStore.tableName? (store : MemoryStore) (id : Nat) : Option SchemaTable :=
  (store.tables.lookup id).map MemoryTable.name

def Metastore.tableName? (store : Metastore) (id : Nat) : Option SchemaTable :=
  (store.tables.find? (·.id = id)).map TableRow.schemaTable

namespace Store

/-- The name of the table of a number. -/
def tableName? : Store → Nat → Option SchemaTable
  | .memory store => store.tableName?
  | .relational store => store.tableName?
  | .sealed kept => kept.store.tableName?

variable {store : Store} {picture : MemoryStore} {handle : TableHandle} {call : StoreCall}

theorem Shows.tableName? (shows : store.Shows picture) (id : Nat) :
    store.tableName? id = picture.tableName? id := by
  have rows {store : Metastore} (depicts : store.Depicts picture) :
      store.tableName? id = picture.tableName? id := by
    rw [Metastore.tableName?, depicts.tables, Metastore.Depicts.find?_ofEntry, Option.map_map]
    rfl
  cases store with
  | memory store => exact congrArg (MemoryStore.tableName? · id) shows.1
  | relational store => exact rows shows.depicts
  | «sealed» kept => exact rows shows.depicts

/-- A table is found by a name as its handle has it exactly if this is the name of the number. -/
theorem Shows.tableHandle?_eq_some_iff (shows : store.Shows picture) :
    MetadataStore.tableHandle? store handle.name = some handle ↔
      store.tableName? handle.id = some handle.name := by
  rw [simulation_shows.tableHandle? shows, shows.sound.tableHandle?_eq_some_iff,
    shows.tableName?, MemoryStore.tableName?, Option.map_eq_some_iff]
  simp

theorem checked_run_sealed {kept : SealedStore} (addressed : call.handle? = some handle) :
    Checked (kept.store.resolve handle) (call.run kept).1 := by
  have checked : Checked (kept.store.resolve handle) (call.run kept.store).1 :=
    Metastore.checked_run addressed
  cases call with
  | schemaNames | hasSchema _ | schemaProperties _ | tableNames _ | tableHandle _
  | createSchema _ _ | dropSchema _ _ | createTable _ _ => cases addressed
  | tableMetadata _ | columnHandles _ => exact checked
  | _ => exact Checked.refuse checked

/-- What a store of any kind answers to a call with a handle starts with the check of the handle
against the name of its number. -/
theorem Shows.checked_run (shows : store.Shows picture) (addressed : call.handle? = some handle) :
    Checked (handle.check id (store.tableName? handle.id)) (call.run store).1 := by
  have named : Agree (fun table name => table.name = name) (picture.table handle)
      (handle.check id (store.tableName? handle.id)) := by
    rw [shows.tableName?, MemoryStore.tableName?, MemoryStore.table]
    cases picture.tables.lookup handle.id with
    | none => rfl
    | some table =>
        simp only [TableHandle.check, Option.map_some, id]
        split <;> rfl
  refine Checked.of_agree ?_ named
  cases store with
  | memory store =>
      obtain ⟨rfl, _⟩ := shows
      rw [StoreCall.run_memory]
      exact MemoryStore.checked_run addressed
  | relational store =>
      rw [StoreCall.run_relational]
      exact (Metastore.checked_run addressed).of_agree (shows.depicts.resolve handle)
  | «sealed» kept =>
      rw [StoreCall.run_sealed]
      exact (checked_run_sealed addressed).of_agree (shows.depicts.resolve handle)

end Store

end CatalogGateway
