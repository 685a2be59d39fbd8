import CatalogGateway.Proofs.Store.Reachable

/-!
# Sessions

A transaction works on a copy of the store of its connector, and its commit puts the copy in
place of the store.  Whatever is done in a session, the store and the copy are reachable.
-/

namespace CatalogGateway

namespace Disk

theorem load_save (disk : Disk) (place other : Place) (store : Metastore) :
    (disk.save place store).load other = if other = place then store else disk.load other := by
  have kept := Dictionary.lookup_filter_ne place other disk.stores
  rw [load, save, Dictionary.lookup_cons]
  split
  · rfl
  · rename_i different
    rw [kept, if_neg different]
    rfl

theorem save_save (disk : Disk) (place : Place) (first second : Metastore) :
    (disk.save place first).save place second = disk.save place second := by
  simp [save]

end Disk

namespace Connector

variable {connector : Connector} {disk : Disk}

/-- A transaction can be opened while the connector is in use. -/
theorem begin_of_inUse (inUse : connector.shutdowns = 0) :
    connector.begin disk = .ok (connector.committed disk) :=
  if_neg (by simp [isShutDown, inUse])

/-- The commit of a store in memory puts it in place. -/
theorem committed_commit_memory {store working : MemoryStore}
    (committed : connector.committed disk = .memory store) :
    (connector.commit disk (.memory working)).1.committed
      (connector.commit disk (.memory working)).2 = .memory working := by
  obtain ⟨name, backend, shutdowns⟩ := connector
  cases backend with
  | memory store => rfl
  | embedded store => cases committed
  | kept access =>
      simp only [Connector.committed] at committed
      split at committed <;> cases committed

/-- The commit of a relational store that can be written puts it in place. -/
theorem committed_commit_relational {store working : Metastore}
    (committed : connector.committed disk = .relational store) :
    (connector.commit disk (.relational working)).1.committed
      (connector.commit disk (.relational working)).2 = .relational working := by
  obtain ⟨name, backend, shutdowns⟩ := connector
  cases backend with
  | memory store => cases committed
  | embedded store => rfl
  | kept access =>
      simp only [Connector.committed] at committed
      split at committed
      · cases committed
      · rename_i writable
        simp [Connector.commit, Connector.committed, writable, Disk.load_save]

theorem commit_sealed (connector : Connector) (disk : Disk) (kept : SealedStore) :
    connector.commit disk (.sealed kept) = (connector, disk) := by
  obtain ⟨name, backend, shutdowns⟩ := connector
  cases backend <;> rfl

theorem shutdowns_commit (connector : Connector) (disk : Disk) (working : Store) :
    (connector.commit disk working).1.shutdowns = connector.shutdowns := by
  obtain ⟨name, backend, shutdowns⟩ := connector
  cases backend <;> cases working <;> rfl

theorem reachable_commit {working : Store} (reachable : working.Reachable)
    (before : (connector.committed disk).Reachable) :
    ((connector.commit disk working).1.committed
      (connector.commit disk working).2).Reachable := by
  obtain ⟨name, backend, shutdowns⟩ := connector
  cases backend with
  | memory store =>
      cases working with
      | memory _ => exact reachable
      | relational _ | «sealed» _ => exact before
  | embedded store =>
      cases working with
      | relational _ => exact reachable
      | memory _ | «sealed» _ => exact before
  | kept access =>
      cases working with
      | memory _ | «sealed» _ => exact before
      | relational rows =>
          simp only [commit, committed, Disk.load_save, if_true]
          split
          · exact .sealed reachable
          · exact reachable

end Connector

namespace Session

variable {session : Session} {store : Store}

theorem call?_of_working (opened : session.working = some store) (call : StoreCall) :
    session.call? call =
      some ((call.run store).1, { session with working := some (call.run store).2 }) := by
  simp [call?, opened]

/-- Carry out operations in the open transaction. -/
def calls? (session : Session) :
    List StoreCall → Option (List (Except StoreFault StoreReply) × Session)
  | [] => some ([], session)
  | call :: rest => do
    let (reply, after) ← session.call? call
    let (replies, final) ← after.calls? rest
    return (reply :: replies, final)

/-- The store of the connector and the copy of the open transaction are reachable. -/
structure Sound (session : Session) : Prop where
  committed : (session.connector.committed session.disk).Reachable
  working : ∀ working, session.working = some working → working.Reachable

namespace Sound

theorem begin (sound : session.Sound) : session.begin.2.Sound := by
  rw [Session.begin, Connector.begin]
  split
  · rename_i refused
    split at refused
    · exact ⟨sound.committed, fun _ opened => by cases opened⟩
    · cases refused
  · rename_i opened
    split at opened
    · cases opened
    · cases opened
      refine ⟨sound.committed, fun working same => ?_⟩
      cases same
      exact sound.committed

theorem call? (sound : session.Sound) {call : StoreCall}
    {reply : Except StoreFault StoreReply} {after : Session}
    (called : session.call? call = some (reply, after)) : after.Sound := by
  obtain ⟨store, opened, runs⟩ := Option.bind_eq_some_iff.mp called
  cases runs
  refine ⟨sound.committed, fun working same => ?_⟩
  cases same
  exact .call call (sound.working store opened)

theorem commit? (sound : session.Sound) {after : Session}
    (closed : session.commit? = some after) : after.Sound := by
  obtain ⟨working, opened, closes⟩ := Option.bind_eq_some_iff.mp closed
  cases closes
  exact ⟨Connector.reachable_commit (sound.working working opened) sound.committed,
    fun _ same => by cases same⟩

theorem rollback (sound : session.Sound) : session.rollback.Sound :=
  ⟨sound.committed, fun _ opened => by cases opened⟩

theorem shutdown (sound : session.Sound) : session.shutdown.Sound := by
  obtain ⟨⟨name, backend, shutdowns⟩, disk, working⟩ := session
  refine ⟨?_, fun _ opened => by cases opened⟩
  cases backend with
  | memory store => exact .memory store.connector store.maxTables
  | embedded store => exact sound.committed
  | kept access => exact sound.committed

end Sound

end Session

end CatalogGateway
