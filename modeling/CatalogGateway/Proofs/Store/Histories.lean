import CatalogGateway.Proofs.Store.Transactions

/-!
# Histories of sessions

What is done in a session: transactions are opened, committed and dropped, operations are
called in between, and the connector may be shut down.  A history is a list of such steps with
their answers.  Whatever history a session has, its stores are reachable.
-/

namespace CatalogGateway

/-- What can be done in a session. -/
inductive SessionStep where
  | begin
  | call (call : StoreCall)
  | commit
  | rollback
  | shutdown

/-- Steps with their answers, the first one first. -/
abbrev History := List (SessionStep × Except StoreFault StoreReply)

namespace Session

/-- Take a step.  A call and a commit need an open transaction. -/
def take? (session : Session) : SessionStep → Option (Except StoreFault StoreReply × Session)
  | .begin => some (session.begin.1.map fun _ => .done, session.begin.2)
  | .call call => session.call? call
  | .commit => session.commit?.map fun after => (.ok .done, after)
  | .rollback => some (.ok .done, session.rollback)
  | .shutdown => some (.ok .done, session.shutdown)

/-- A history leads from one session to another. -/
inductive Runs : Session → History → Session → Prop where
  | stay (session : Session) : Runs session [] session
  | step {session next final : Session} {step : SessionStep}
      {answer : Except StoreFault StoreReply} {rest : History}
      (taken : session.take? step = some (answer, next)) (runs : Runs next rest final) :
      Runs session ((step, answer) :: rest) final

/-- A store is that of the connector, or the copy of the open transaction. -/
def Holds (session : Session) (store : Store) : Prop :=
  session.connector.committed session.disk = store ∨ session.working = some store

variable {session next final : Session} {step : SessionStep}
  {answer : Except StoreFault StoreReply} {history : History}

theorem begin_eq (session : Session) :
    session.begin = if session.connector.isShutDown
      then (.error (.shutDown session.connector.name), session.rollback)
      else (.ok (), { session with working := session.connector.committed session.disk }) := by
  rw [Session.begin, Connector.begin]
  cases session.connector.isShutDown <;> rfl

theorem call?_eq_some_iff {call : StoreCall} : session.call? call = some (answer, next) ↔
    ∃ store, session.working = some store ∧ answer = (call.run store).1 ∧
      next = { session with working := (call.run store).2 } := by
  cases opened : session.working with
  | none => simp [call?, opened]
  | some store =>
      rw [call?_of_working opened]
      simp [eq_comm]

theorem commit?_eq_some_iff : session.commit? = some next ↔
    ∃ store, session.working = some store ∧
      next = start (session.connector.commit session.disk store).1
        (session.connector.commit session.disk store).2 := by
  cases opened : session.working with
  | none => simp [commit?, opened]
  | some store => simp [commit?, opened, start, eq_comm]

/-- What every step keeps, every history keeps. -/
theorem Runs.invariant {keeps : Session → Prop}
    (stays : ∀ {session step answer next}, keeps session →
      session.take? step = some (answer, next) → keeps next)
    (start : keeps session) (runs : session.Runs history final) : keeps final := by
  induction runs with
  | stay => exact start
  | step taken _ ih => exact ih (stays start taken)

namespace Sound

theorem take? (sound : session.Sound) (taken : session.take? step = some (answer, next)) :
    next.Sound := by
  cases step with
  | begin =>
      cases taken
      exact sound.begin
  | call call => exact sound.call? taken
  | commit =>
      obtain ⟨after, closed, same⟩ := Option.map_eq_some_iff.mp taken
      cases same
      exact sound.commit? closed
  | rollback =>
      cases taken
      exact sound.rollback
  | shutdown =>
      cases taken
      exact sound.shutdown

theorem runs (sound : session.Sound) (runs : session.Runs history final) : final.Sound :=
  runs.invariant take? sound

/-- A session that begins on a reachable store is sound. -/
theorem start {connector : Connector} {disk : Disk}
    (reachable : (connector.committed disk).Reachable) : (Session.start connector disk).Sound :=
  ⟨reachable, fun _ opened => by cases opened⟩

theorem reachable (sound : session.Sound) {store : Store} (held : session.Holds store) :
    store.Reachable := by
  rcases held with rfl | opened
  · exact sound.committed
  · exact sound.working store opened

end Sound

end Session

end CatalogGateway
