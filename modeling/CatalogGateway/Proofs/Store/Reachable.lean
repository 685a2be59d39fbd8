import CatalogGateway.Proofs.Store.PictureCalls
import CatalogGateway.Store.Connector

/-!
# Reachable stores

The stores that calls lead to from new ones, whether the calls succeed or fail.  Each of them
shows a sound store in memory, its picture: itself, or the store that its rows depict.
Whatever succeeds on a reachable store succeeds alike on its picture.
-/

namespace CatalogGateway

namespace MemoryStore

/-- No call changes the largest number of tables. -/
theorem maxTables_run (store : MemoryStore) (call : StoreCall) :
    (call.run store).2.maxTables = store.maxTables := by
  have stays : Stays store (call.run store).2 := run_stays call
  generalize (call.run store).2 = after at stays
  rcases stays with rfl | step
  · rfl
  · cases step <;> rfl

end MemoryStore

namespace Metastore

/-- The rows of a relational store depict a sound store without a limit. -/
structure Shows (store : Metastore) (picture : MemoryStore) : Prop where
  depicts : store.Depicts picture
  sound : picture.Sound
  limitless : picture.maxTables = none

namespace Shows

variable {store : Metastore} {picture : MemoryStore}

theorem fresh (connector : String) : Shows {} { connector } where
  depicts := Depicts.fresh connector
  sound := MemoryStore.Sound.fresh connector none
  limitless := rfl

theorem mirrors (shows : store.Shows picture) (call : StoreCall) : Mirrors store picture call :=
  shows.depicts.mirrors shows.sound shows.limitless call

theorem next (shows : store.Shows picture) {call : StoreCall}
    (depicts : (call.run store).2.Depicts (call.run picture).2) :
    (call.run store).2.Shows (call.run picture).2 where
  depicts := depicts
  sound := shows.sound.run call
  limitless := (picture.maxTables_run call).trans shows.limitless

/-- The picture of the part of a refused table that stays. -/
theorem addLeading (shows : store.Shows picture) {after : Metastore} {schema : String}
    {table : EngineTable}
    (accepted : (picture.requireSchema schema >>= fun _ =>
      picture.requireFree none ⟨schema, table.name⟩) = .ok ())
    (depicts : after.Depicts (picture.addTable (.ofEngine schema table.leading))) :
    after.Shows (picture.addTable (.ofEngine schema table.leading)) where
  depicts := depicts
  sound := by
    obtain ⟨_, present, free⟩ := Outcome.bind_eq_ok_iff.mp accepted
    apply shows.sound.createTable (MemoryStore.requireSchema_eq_ok_iff.mp present)
      (MemoryStore.requireFree_none_eq_ok_iff.mp free)
    · intro limit bound
      rw [shows.limitless] at bound
      contradiction
    · have accepted := MemoryTable.requireDistinct_leadingDistinct "" [] table.columns
      exact (MemoryTable.requireDistinct_eq_ok_iff.mp accepted).1
  limitless := shows.limitless

/-- Whatever is called, the store has a picture afterwards. -/
theorem run (shows : store.Shows picture) (call : StoreCall) :
    ∃ after, (call.run store).2.Shows after := by
  cases shows.mirrors call with
  | alike _ depicts => exact ⟨_, shows.next depicts⟩
  | illegible _ _ _ answer _ =>
      rw [answer]
      exact ⟨picture, shows⟩
  | abandoned accepted _ _ _ depicts => exact ⟨_, shows.addLeading accepted depicts⟩

/-- What succeeds on a relational store succeeds alike on its picture. -/
theorem run_ok (shows : store.Shows picture) {call : StoreCall} {reply : StoreReply}
    {after : Metastore} (runs : call.run store = (.ok reply, after)) :
    ∃ other, call.run picture = (.ok reply, other) ∧ after.Shows other := by
  cases shows.mirrors call with
  | alike answer depicts =>
      rw [runs] at answer depicts
      refine ⟨(call.run picture).2, Prod.ext answer.symm rfl, ?_⟩
      have shown : (call.run store).2.Shows (call.run picture).2 :=
        shows.next (by rw [runs]; exact depicts)
      rwa [runs] at shown
  | illegible _ _ _ answer _ =>
      rw [runs] at answer
      cases answer
  | abandoned _ _ answer _ _ =>
      rw [runs] at answer
      cases answer

end Shows

end Metastore

namespace SealedStore

theorem refuse_ne_ok {α : Type} {store : SealedStore} {outcome : Except StoreFault α × Metastore}
    {value : α} : (store.refuse outcome).1 ≠ .ok value := by
  rw [refuse]
  cases outcome.1 <;> simp [Except.bind]

end SealedStore

namespace StoreCall

theorem run_memory (call : StoreCall) (store : MemoryStore) :
    call.run (Store.memory store) = ((call.run store).1, .memory (call.run store).2) := by
  cases call <;> rfl

theorem run_relational (call : StoreCall) (store : Metastore) :
    call.run (Store.relational store) = ((call.run store).1, .relational (call.run store).2) := by
  cases call <;> rfl

theorem run_sealed (call : StoreCall) (store : SealedStore) :
    call.run (Store.sealed store) = ((call.run store).1, .sealed store) := by
  cases call <;> rfl

/-- What succeeds on a sealed store is a question, which the store inside answers. -/
theorem run_sealed_ok {call : StoreCall} {store : SealedStore} {reply : StoreReply}
    (runs : (call.run store).1 = .ok reply) : call.run store.store = (.ok reply, store.store) := by
  cases call with
  | schemaNames | hasSchema | schemaProperties | tableNames | tableHandle | tableMetadata
  | columnHandles => exact Prod.ext runs rfl
  | _ =>
      obtain ⟨_, accepted, _⟩ := Outcome.map_eq_ok_iff.mp runs
      exact absurd accepted SealedStore.refuse_ne_ok

end StoreCall

/-- The stores that calls lead to from new ones. -/
inductive Store.Reachable : Store → Prop where
  | memory (connector : String) (maxTables : Option Nat) :
      Reachable (.memory { connector, maxTables })
  | relational : Reachable (.relational {})
  | call {store : Store} (call : StoreCall) (reachable : Reachable store) :
      Reachable (call.run store).2
  /-- A store that is opened for reading only was written before. -/
  | sealed {store : Metastore} (reachable : Reachable (.relational store)) :
      Reachable (.sealed ⟨store⟩)

namespace Store

/-- What a store of any kind shows, as a sound store in memory. -/
def Shows : Store → MemoryStore → Prop
  | .memory store, picture => store = picture ∧ store.Sound
  | .relational store, picture => store.Shows picture
  | .sealed kept, picture => kept.store.Shows picture

/-- Every reachable store has a picture. -/
theorem Reachable.exists_shows {store : Store} (reachable : store.Reachable) :
    ∃ picture, store.Shows picture := by
  induction reachable with
  | memory connector maxTables =>
      exact ⟨{ connector, maxTables }, rfl, MemoryStore.Sound.fresh connector maxTables⟩
  | relational => exact ⟨{ connector := "" }, Metastore.Shows.fresh ""⟩
  | @call store call _ ih =>
      obtain ⟨picture, shows⟩ := ih
      cases store with
      | memory store =>
          rw [StoreCall.run_memory]
          exact ⟨_, rfl, shows.2.run call⟩
      | relational store =>
          rw [StoreCall.run_relational]
          exact shows.run call
      | «sealed» kept =>
          rw [StoreCall.run_sealed]
          exact ⟨picture, shows⟩
  | «sealed» _ ih => exact ih

end Store

end CatalogGateway
