import CatalogGateway.Proofs.Store.Sessions

/-!
# Failed calls

A call that fails in an open transaction should go unnoticed: whatever is called afterwards
is answered as if it had not been made, and so is the store that a later commit leaves.
Every operation but one checks everything before it writes anything.  The exception is the
creation of a table in a relational store, where a repeated column name is noticed only when
the table and the columns before it have been written.
-/

namespace CatalogGateway

namespace MetadataStore

theorem guarded_of_error {σ α : Type} {store : σ} {checked : Except StoreFault α}
    {change : α → σ} {fault : StoreFault}
    (failed : (guarded store checked change).1 = .error fault) :
    (guarded store checked change).2 = store := by
  cases checked with
  | error _ => rfl
  | ok _ => contradiction

end MetadataStore

namespace StoreCall

theorem run_memory_of_error {store : MemoryStore} {call : StoreCall} {fault : StoreFault}
    (failed : (call.run store).1 = .error fault) : (call.run store).2 = store := by
  cases call with
  | schemaNames | hasSchema | schemaProperties | tableNames | tableHandle | tableMetadata
  | columnHandles => rfl
  | createTable schema table =>
      have refused := Outcome.map_eq_error_iff.mp (Outcome.map_eq_error_iff.mp failed)
      exact MetadataStore.guarded_of_error refused
  | _ => exact MetadataStore.guarded_of_error (Outcome.map_eq_error_iff.mp failed)

/-- A call that fails on a relational store leaves it as it is, unless a table was to be
created. -/
theorem run_relational_of_error {store : Metastore} {call : StoreCall} {fault : StoreFault}
    (failed : (call.run store).1 = .error fault)
    (other : ∀ schema table, call ≠ .createTable schema table) : (call.run store).2 = store := by
  cases call with
  | schemaNames | hasSchema | schemaProperties | tableNames | tableHandle | tableMetadata
  | columnHandles => rfl
  | createTable schema table => exact absurd rfl (other schema table)
  | _ => exact MetadataStore.guarded_of_error (Outcome.map_eq_error_iff.mp failed)

/-- A call that fails on a store of any kind leaves it as it is, unless a table was to be
created in a relational store. -/
theorem run_of_error {store : Store} {call : StoreCall} {fault : StoreFault}
    (failed : (call.run store).1 = .error fault)
    (other : ∀ rows schema table, store = .relational rows → call ≠ .createTable schema table) :
    (call.run store).2 = store := by
  cases store with
  | memory store =>
      rw [run_memory] at failed ⊢
      rw [run_memory_of_error failed]
  | relational rows =>
      rw [run_relational] at failed ⊢
      rw [run_relational_of_error failed fun schema table => other rows schema table rfl]
  | «sealed» kept => rw [run_sealed]

end StoreCall

namespace Store

/-- Whether a call is refused only after it has begun to write: it creates a table in a
relational store, under a name that is free, with a column name that occurs twice. -/
def WritesBeforeRefusing (store : Store) (call : StoreCall) : Prop :=
  ∃ rows schema table, store = .relational rows ∧ call = .createTable schema table ∧
    MetadataStore.hasSchema store schema = true ∧
    MetadataStore.tableHandle? store ⟨schema, table.name⟩ = none ∧
    ¬ (table.columns.map EngineColumn.name).Nodup

end Store

namespace Session

/-- What a commit after some operations would leave as the store of the connector. -/
def committedAfter? (session : Session) (calls : List StoreCall) : Option Store := do
  let (_, after) ← session.calls? calls
  let final ← after.commit?
  return final.connector.committed final.disk

/-- Whatever is called next, the answers and the store after a commit are the same. -/
def SameFuture (first second : Session) : Prop :=
  ∀ calls, (first.calls? calls).map Prod.fst = (second.calls? calls).map Prod.fst ∧
    first.committedAfter? calls = second.committedAfter? calls

end Session

namespace Metastore

variable {store : Metastore} {picture : MemoryStore}

/-- The creation of a table that fails leaves a relational store as it is, unless it was
refused too late. -/
theorem Shows.createTable_of_error (shows : store.Shows picture) {schema : String}
    {table : EngineTable} {fault : StoreFault}
    (failed : ((StoreCall.createTable schema table).run store).1 = .error fault) :
    ((StoreCall.createTable schema table).run store).2 = store ∨
      Store.WritesBeforeRefusing (.relational store) (.createTable schema table) := by
  cases accepted : picture.requireSchema schema >>= fun _ =>
      picture.requireFree none ⟨schema, table.name⟩ with
  | error other =>
      have refused := shows.depicts.createTable_of_refused accepted
      exact Or.inl (congrArg Prod.snd refused)
  | ok _ =>
      have created := shows.depicts.createTable_of_accepted shows.sound accepted
      obtain ⟨_, present, free⟩ := Outcome.bind_eq_ok_iff.mp accepted
      refine Or.inr ⟨store, schema, table, rfl, rfl, ?_, ?_, ?_⟩
      · show store.containsSchema schema = true
        rw [shows.depicts.containsSchema]
        exact MemoryStore.requireSchema_eq_ok_iff.mp present
      · show (store.findTable? ⟨schema, table.name⟩).map _ = none
        rw [shows.depicts.findTable?, MemoryStore.requireFree_none_eq_ok_iff.mp free]
        rfl
      · intro distinct
        have answer : ((StoreCall.createTable schema table).run store).1 =
            (MetadataStore.createTable store schema table).1.map .created := rfl
        have names : MemoryTable.requireDistinct (SchemaTable.display ⟨schema, table.name⟩) []
            table.columns = .ok () :=
          MemoryTable.requireDistinct_eq_ok_iff.mpr ⟨distinct, by simp⟩
        rw [answer, created, names] at failed
        contradiction

/-- A table that is refused too late is found afterwards. -/
theorem Shows.tableHandle?_of_late (shows : store.Shows picture) {schema : String}
    {table : EngineTable} (present : MetadataStore.hasSchema store schema = true)
    (free : MetadataStore.tableHandle? store ⟨schema, table.name⟩ = none) :
    (MetadataStore.tableHandle? ((StoreCall.createTable schema table).run store).2
      ⟨schema, table.name⟩).isSome := by
  have accepted : (picture.requireSchema schema >>= fun _ =>
      picture.requireFree none ⟨schema, table.name⟩) = .ok () := by
    apply Outcome.bind_eq_ok_iff.mpr
    refine ⟨(), ?_, ?_⟩
    · rw [MemoryStore.requireSchema_eq_ok_iff, ← shows.depicts.containsSchema]
      exact present
    · rw [MemoryStore.requireFree_none_eq_ok_iff, ← shows.depicts.findTable?]
      exact Option.map_eq_none_iff.mp free
  have created := shows.depicts.createTable_of_accepted shows.sound accepted
  have left : ((StoreCall.createTable schema table).run store).2 =
      (MetadataStore.createTable store schema table).2 := rfl
  have depicts := shows.depicts.addTable shows.sound schema table.leading
  have sound := (shows.addLeading accepted depicts).sound
  rw [left, created]
  show (Option.map _ ((store.addTable schema table.leading).findTable? _)).isSome
  have found : (picture.addTable (.ofEngine schema table.leading)).findTable?
      ⟨schema, table.name⟩ = some (picture.lastTableId + 1) :=
    sound.findTable?_eq_some_iff.mpr ⟨.ofEngine schema table.leading,
      shows.sound.lookup_addTable.trans (if_pos rfl), rfl⟩
  rw [Option.isSome_map, depicts.findTable?, found]
  rfl

end Metastore

namespace Session

variable {session : Session} {store : Store}

theorem calls?_tableHandle (opened : session.working = some store) (name : SchemaTable) :
    (session.calls? [.tableHandle name]).map Prod.fst =
      some [.ok (.found (MetadataStore.tableHandle? store name))] := by
  simp [calls?, call?, opened, StoreCall.run, StoreCall.answer, Except.map]

theorem SameFuture.refl (session : Session) : session.SameFuture session :=
  fun _ => ⟨rfl, rfl⟩

/-- In every reachable state of an open transaction, a failed call goes unnoticed exactly when
it was not refused too late. -/
theorem sameFuture_of_failed_iff {after : Session} {call : StoreCall} {fault : StoreFault}
    (opened : session.working = some store) (reachable : store.Reachable)
    (failed : session.call? call = some (.error fault, after)) :
    after.SameFuture session ↔ ¬ store.WritesBeforeRefusing call := by
  rw [call?_of_working opened, Option.some.injEq, Prod.mk.injEq] at failed
  obtain ⟨failed, rfl⟩ := failed
  obtain ⟨picture, shows⟩ := reachable.exists_shows
  constructor
  · rintro same ⟨rows, schema, table, rfl, rfl, present, free, _⟩
    have found := Metastore.Shows.tableHandle?_of_late shows present free
    have answers := (same [.tableHandle ⟨schema, table.name⟩]).1
    rw [calls?_tableHandle rfl, calls?_tableHandle opened] at answers
    have handles : MetadataStore.tableHandle?
        ((StoreCall.createTable schema table).run (Store.relational rows)).2
          ⟨schema, table.name⟩ = none := by
      simpa [free] using answers
    rw [StoreCall.run_relational] at handles
    have missing : MetadataStore.tableHandle? ((StoreCall.createTable schema table).run rows).2
        ⟨schema, table.name⟩ = none := handles
    rw [missing] at found
    contradiction
  · intro timely
    have unchanged : (call.run store).2 = store := by
      by_cases creates : ∃ rows schema table, store = .relational rows ∧
          call = .createTable schema table
      · obtain ⟨rows, schema, table, rfl, rfl⟩ := creates
        rw [StoreCall.run_relational] at failed ⊢
        rcases Metastore.Shows.createTable_of_error shows failed with same | late
        · exact congrArg Store.relational same
        · exact absurd late timely
      · exact StoreCall.run_of_error failed fun rows schema table isRelational isCreation =>
          creates ⟨rows, schema, table, isRelational, isCreation⟩
    rw [unchanged, ← opened]
    exact SameFuture.refl session

/-- A relational store with one schema, in an open transaction. -/
def withSchema : Session where
  connector := { name := "c", backend := .embedded {} }
  disk := {}
  working := some ((StoreCall.createSchema "s" .empty).run (Store.relational {})).2

/-- A table whose column name occurs twice. -/
def twice : EngineTable where
  name := "t"
  columns := [{ name := "x", type := .integer }, { name := "x", type := .integer }]

/-- Refusing a repeated column name in a relational store is noticed: the table is found. -/
theorem not_sameFuture_of_twice :
    ∃ after, withSchema.call? (.createTable "s" twice) =
        some (.error (.columnExists "s.t" "x"), after) ∧
      ¬ after.SameFuture withSchema := by
  have reachable : ((StoreCall.createSchema "s" .empty).run (Store.relational {})).2.Reachable :=
    .call _ .relational
  have failed : withSchema.call? (.createTable "s" twice) =
      some (.error (.columnExists "s.t" "x"), _) := rfl
  refine ⟨_, failed, fun same => ?_⟩
  refine (sameFuture_of_failed_iff rfl reachable failed).mp same ?_
  exact ⟨_, "s", twice, rfl, rfl, by decide, by decide, by decide⟩

end Session

end CatalogGateway
