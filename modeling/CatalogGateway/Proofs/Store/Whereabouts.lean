import CatalogGateway.Proofs.Store.FailedCalls
import CatalogGateway.Proofs.Store.HandleChecks
import CatalogGateway.Proofs.Store.Invariants

/-!
# Whereabouts of tables

A handle belongs to one table, whatever becomes of the table and of its name.  The table is
followed from the call that answered with the handle on, by what is told of it: accepted calls
rename it, drop it, or drop the schema that it lies in, and what is not committed has not
happened.  As no number is given out twice, the handle is refused wherever its table is gone or
has another name, even if there is a new table under the old one.
-/

namespace CatalogGateway

namespace StoreCall

/-- The name of a table after an accepted call, if the call does not drop it. -/
def nameAfter (call : StoreCall) (name : SchemaTable) : Option SchemaTable :=
  match call with
  | dropSchema schema _ => if name.schema = schema then none else some name
  | dropTable handle => if handle.name = name then none else some name
  | renameTable handle next => if handle.name = name then some next else some name
  | _ => some name

/-- What is known of a name after a call, which changes it only if it is accepted. -/
def knownAfter (call : StoreCall) (answer : Except StoreFault StoreReply)
    (known : Option (Option SchemaTable)) : Option (Option SchemaTable) :=
  match answer with
  | .ok _ => known.map (·.bind call.nameAfter)
  | .error _ => known

theorem acknowledge_guarded_eq_ok {σ α : Type} {store after : σ} {checked : Except StoreFault α}
    {change : α → σ} {reply : StoreReply}
    (runs : acknowledge (MetadataStore.guarded store checked change) = (.ok reply, after)) :
    ∃ found, checked = .ok found ∧ change found = after := by
  obtain ⟨answer, left⟩ := Prod.mk.inj runs
  obtain ⟨_, done, _⟩ := Outcome.map_eq_ok_iff.mp answer
  exact MetadataStore.guarded_eq_ok_iff.mp (Prod.ext done left)

end StoreCall

namespace MemoryStore

variable {store after : MemoryStore} {id : Nat} {table : MemoryTable}

theorem tableName?_mapTable (other : Nat) (change : MemoryTable → MemoryTable) :
    (store.mapTable other change).tableName? id =
      (store.tables.lookup id).map fun table =>
        (if id = other then change table else table).name := by
  rw [tableName?, lookup_mapTable]
  cases store.tables.lookup id with
  | none => simp
  | some table => split <;> rfl

theorem lastTableId_le_run (call : StoreCall) :
    store.lastTableId ≤ (call.run store).2.lastTableId := by
  have stays : Stays store (call.run store).2 := run_stays call
  generalize (call.run store).2 = after at stays
  rcases stays with rfl | step
  · exact Nat.le_refl _
  · cases step with
    | createTable => exact Nat.le_succ _
    | _ => exact Nat.le_refl _

namespace Sound

theorem tableName?_addTable (sound : store.Sound) (given : id ≤ store.lastTableId) :
    (store.addTable table).tableName? id = store.tableName? id := by
  rw [tableName?, sound.lookup_addTable, if_neg (Nat.ne_of_lt (Nat.lt_succ_of_le given))]
  rfl

theorem tableName?_filter (sound : store.Sound) (keep : Nat × MemoryTable → Bool)
    (schemas : Dictionary EngineProperties) :
    ({ store with schemas, tables := store.tables.filter keep } : MemoryStore).tableName? id =
      (store.tables.lookup id).bind fun table =>
        if keep (id, table) then some table.name else none := by
  rw [tableName?, Dictionary.lookup_filter sound.ids_nodup]
  cases store.tables.lookup id with
  | none => rfl
  | some table => cases kept : keep (id, table) <;> simp [Option.filter, kept]

/-- The name of a handle that is accepted is that of no other table. -/
theorem name_eq_iff (sound : store.Sound) {handle : TableHandle} {addressed : MemoryTable}
    (present : store.table handle = .ok addressed)
    (found : store.tables.lookup id = some table) : handle.name = table.name ↔ id = handle.id := by
  obtain ⟨addressedFound, named⟩ := table_eq_ok_iff.mp present
  constructor
  · intro same
    exact (sound.names addressedFound found (named.trans same)).symm
  · rintro rfl
    cases addressedFound.symm.trans found
    exact named.symm

/-- What an accepted call makes of the name of a number that was given out before. -/
theorem tableName?_run (sound : store.Sound) (given : id ≤ store.lastTableId) {call : StoreCall}
    {reply : StoreReply} (runs : call.run store = (.ok reply, after)) :
    after.tableName? id = (store.tableName? id).bind call.nameAfter := by
  have stays (unchanged : after.tableName? id = store.tableName? id)
      (keeps : call.nameAfter = some) :
      after.tableName? id = (store.tableName? id).bind call.nameAfter := by
    rw [unchanged, keeps, Option.bind_fun_some]
  -- A call is told to concern a table by the name of its handle, which is that of the table, as
  -- the call is accepted.
  cases call with
  | schemaNames | hasSchema _ | schemaProperties _ | tableNames _ | tableHandle _
  | tableMetadata _ | columnHandles _ =>
      obtain rfl : store = after := (Prod.mk.inj runs).2
      exact stays rfl rfl
  | createSchema schema properties =>
      obtain ⟨_, _, rfl⟩ := StoreCall.acknowledge_guarded_eq_ok runs
      exact stays rfl rfl
  | dropSchema schema cascade =>
      obtain ⟨_, _, rfl⟩ := StoreCall.acknowledge_guarded_eq_ok runs
      refine (sound.tableName?_filter _ _).trans ?_
      rw [tableName?]
      cases store.tables.lookup id with
      | none => rfl
      | some table => simp [StoreCall.nameAfter]
  | createTable schema table =>
      obtain ⟨answer, left⟩ := Prod.mk.inj runs
      obtain ⟨handle, created, _⟩ := Outcome.map_eq_ok_iff.mp answer
      obtain ⟨_, rfl⟩ := createTable_eq_ok (Prod.ext created left)
      exact stays (sound.tableName?_addTable given) rfl
  | dropTable handle =>
      obtain ⟨addressed, present, rfl⟩ := StoreCall.acknowledge_guarded_eq_ok runs
      refine (sound.tableName?_filter _ _).trans ?_
      rw [tableName?]
      cases found : store.tables.lookup id with
      | none => rfl
      | some table => simp [StoreCall.nameAfter, sound.name_eq_iff present found]
  | renameTable handle name =>
      obtain ⟨_, checked, rfl⟩ := StoreCall.acknowledge_guarded_eq_ok runs
      obtain ⟨addressed, present, _⟩ := Outcome.bind_eq_ok_iff.mp checked
      rw [tableName?_mapTable, tableName?]
      cases found : store.tables.lookup id with
      | none => rfl
      | some table =>
          simp only [StoreCall.nameAfter, Option.map_some, Option.bind_some,
            sound.name_eq_iff present found]
          split <;> rfl
  | _ =>
      obtain ⟨_, _, rfl⟩ := StoreCall.acknowledge_guarded_eq_ok runs
      refine stays ?_ rfl
      rw [tableName?_mapTable, tableName?]
      congr 1
      funext table
      split <;> rfl

/-- A handle that is given is that of a table with its name. -/
theorem tableName?_of_handle? (sound : store.Sound) {call : StoreCall} {reply : StoreReply}
    {handle : TableHandle} (runs : call.run store = (.ok reply, after))
    (given : reply.handle? = some handle) : after.tableName? handle.id = some handle.name := by
  cases call with
  | tableHandle name =>
      cases runs
      obtain ⟨rfl, table, found, named⟩ := sound.tableHandle?_eq_some_iff.mp given
      rw [tableName?, found, Option.map_some, named]
  | createTable schema table =>
      obtain ⟨answer, left⟩ := Prod.mk.inj runs
      obtain ⟨created, succeeds, rfl⟩ := Outcome.map_eq_ok_iff.mp answer
      cases given
      obtain ⟨_, rfl⟩ := createTable_eq_ok (Prod.ext succeeds left)
      obtain ⟨_, _, rfl⟩ := Outcome.map_eq_ok_iff.mp succeeds
      rw [tableName?, sound.lookup_addTable, if_pos rfl]
      rfl
  | schemaNames | hasSchema _ =>
      cases runs
      cases given
  | _ =>
      obtain ⟨_, _, rfl⟩ := Outcome.map_eq_ok_iff.mp (congrArg Prod.fst runs)
      cases given

theorem le_lastTableId (sound : store.Sound) {name : SchemaTable}
    (named : store.tableName? id = some name) : id ≤ store.lastTableId := by
  obtain ⟨table, found, _⟩ := Option.map_eq_some_iff.mp named
  exact sound.given found

end Sound

end MemoryStore

namespace Store

variable {store after : Store} {picture : MemoryStore} {id : Nat} {call : StoreCall}
  {reply : StoreReply} {fault : StoreFault}

/-- What is known of the name of the table of a number: nothing, or the name unless it has been
dropped. -/
def Places (store : Store) (id : Nat) (known : Option (Option SchemaTable)) : Prop :=
  ∀ name?, known = some name? → id ≤ store.lastTableId ∧ store.tableName? id = name?

/-- A call that fails leaves the names of the numbers that were given out before. -/
theorem Shows.exists_of_error (shows : store.Shows picture)
    (failed : (call.run store).1 = .error fault) : ∃ other, (call.run store).2.Shows other ∧
      picture.lastTableId ≤ other.lastTableId ∧
      ∀ id ≤ picture.lastTableId, other.tableName? id = picture.tableName? id := by
  have unchanged (same : (call.run store).2 = store) : ∃ other, (call.run store).2.Shows other ∧
      picture.lastTableId ≤ other.lastTableId ∧
      ∀ id ≤ picture.lastTableId, other.tableName? id = picture.tableName? id :=
    ⟨picture, same.symm ▸ shows, Nat.le_refl _, fun _ _ => rfl⟩
  cases store with
  | memory store =>
      exact unchanged (StoreCall.run_of_error failed fun _ _ _ isRelational _ => by
        cases isRelational)
  | «sealed» kept =>
      exact unchanged (StoreCall.run_of_error failed fun _ _ _ isRelational _ => by
        cases isRelational)
  | relational rows =>
      have shown : rows.Shows picture := shows
      rw [StoreCall.run_relational] at failed unchanged ⊢
      cases shown.mirrors call with
      | alike answer depicts =>
          have same := StoreCall.run_memory_of_error (answer.symm.trans failed)
          exact ⟨_, shown.next depicts, Nat.le_of_eq (congrArg MemoryStore.lastTableId same.symm),
            fun _ _ => by rw [same]⟩
      | illegible _ _ _ answer _ => exact unchanged (by rw [answer])
      | abandoned accepted _ _ _ depicts =>
          -- The creation leaves its table behind, under a number that had not been given out.
          exact ⟨_, shown.addLeading accepted depicts, Nat.le_succ _,
            fun _ given => shown.sound.tableName?_addTable given⟩

/-- What is known of a table after a call. -/
theorem Shows.places_run (shows : store.Shows picture) {known : Option (Option SchemaTable)}
    (places : store.Places id known) :
    (call.run store).2.Places id (call.knownAfter (call.run store).1 known) := by
  have placed (name? : Option SchemaTable) (knows : known = some name?) :
      id ≤ picture.lastTableId ∧ picture.tableName? id = name? := by
    rw [← shows.lastTableId, ← shows.tableName?]
    exact places name? knows
  cases outcome : (call.run store).1 with
  | error fault =>
      obtain ⟨other, shown, counted, names⟩ := shows.exists_of_error outcome
      intro name? knows
      obtain ⟨given, named⟩ := placed name? knows
      rw [shown.lastTableId, shown.tableName?]
      exact ⟨Nat.le_trans given counted, (names id given).trans named⟩
  | ok reply =>
      obtain ⟨answers, shown⟩ := simulation_shows store picture shows call reply outcome
      intro next? knows
      obtain ⟨name?, knew, rfl⟩ := Option.map_eq_some_iff.mp knows
      obtain ⟨given, rfl⟩ := placed name? knew
      rw [shown.lastTableId, shown.tableName?]
      exact ⟨Nat.le_trans given (MemoryStore.lastTableId_le_run call),
        shows.sound.tableName?_run given (Prod.ext answers rfl)⟩

end Store

/-- What is known of the table of a handle. -/
structure Trail where
  /-- Its name in the store of the connector, unless it has been dropped.  Nothing is known as
  long as the transaction in which the handle was made has not been committed. -/
  committed : Option (Option SchemaTable)
  /-- Its name in the open transaction, unless it has been dropped. -/
  working : Option (Option SchemaTable)

namespace Trail

/-- The transaction in which a handle is made has its table under the name of the handle. -/
def ofHandle (handle : TableHandle) : Trail where
  committed := none
  working := some (some handle.name)

/-- What is known after a step. -/
def step (trail : Trail) : SessionStep × Except StoreFault StoreReply → Trail
  | (.begin, .ok _) => { trail with working := trail.committed }
  | (.call call, answer) => { trail with working := call.knownAfter answer trail.working }
  | (.commit, _) => { trail with committed := trail.working }
  | _ => trail

/-- What is known after a history. -/
def follow (trail : Trail) (history : History) : Trail :=
  history.foldl step trail

end Trail

namespace Session

variable {session next final : Session} {id : Nat} {trail : Trail} {step : SessionStep}
  {answer : Except StoreFault StoreReply} {history : History}

/-- The stores of a session have the table of a number where a trail says. -/
structure Follows (id : Nat) (trail : Trail) (session : Session) : Prop where
  sound : session.Sound
  committed : session.connector.isShutDown = false →
    (session.connector.committed session.disk).Places id trail.committed
  /-- No transaction is open when the connector is shut down, and a commit of the open one puts
  its copy in place. -/
  working : ∀ store, session.working = some store →
    session.connector.isShutDown = false ∧ session.connector.Takes session.disk store ∧
      store.Places id trail.working

namespace Follows

theorem begin (follows : session.Follows id trail) :
    session.begin.2.Follows id (trail.step (.begin, session.begin.1.map fun _ => .done)) := by
  have sound := follows.sound.begin
  rw [begin_eq] at sound ⊢
  cases inUse : session.connector.isShutDown with
  | true =>
      rw [inUse] at sound
      exact ⟨sound, follows.committed, fun _ opened => by cases opened⟩
  | false =>
      rw [inUse] at sound
      refine ⟨sound, follows.committed, fun store opened => ?_⟩
      cases opened
      exact ⟨inUse, Connector.takes_committed _ _, follows.committed inUse⟩

theorem call? {call : StoreCall} (follows : session.Follows id trail)
    (called : session.call? call = some (answer, next)) :
    next.Follows id (trail.step (.call call, answer)) := by
  have sound := follows.sound.call? called
  obtain ⟨store, opened, rfl, rfl⟩ := call?_eq_some_iff.mp called
  obtain ⟨inUse, takes, places⟩ := follows.working store opened
  obtain ⟨picture, shows⟩ := (follows.sound.working store opened).exists_shows
  refine ⟨sound, follows.committed, fun after same => ?_⟩
  cases same
  exact ⟨inUse, Connector.takes_run call takes, shows.places_run places⟩

theorem commit? (follows : session.Follows id trail) (closed : session.commit? = some next) :
    next.Follows id (trail.step (.commit, .ok .done)) := by
  have sound := follows.sound.commit? closed
  obtain ⟨store, opened, rfl⟩ := commit?_eq_some_iff.mp closed
  obtain ⟨_, takes, places⟩ := follows.working store opened
  refine ⟨sound, fun _ => ?_, nofun⟩
  rw [Connector.Takes] at takes
  rw [start, takes]
  exact places

theorem rollback (follows : session.Follows id trail) : session.rollback.Follows id trail :=
  ⟨follows.sound.rollback, follows.committed, nofun⟩

theorem shutdown (follows : session.Follows id trail) : session.shutdown.Follows id trail := by
  refine ⟨follows.sound.shutdown, fun inUse => ?_, nofun⟩
  simp [Session.shutdown, Connector.shutdown, Connector.isShutDown] at inUse

theorem take? (follows : session.Follows id trail)
    (taken : session.take? step = some (answer, next)) :
    next.Follows id (trail.step (step, answer)) := by
  cases step with
  | begin =>
      cases taken
      exact follows.begin
  | call call => exact follows.call? taken
  | commit =>
      obtain ⟨after, closed, same⟩ := Option.map_eq_some_iff.mp taken
      cases same
      exact follows.commit? closed
  | rollback =>
      cases taken
      exact follows.rollback
  | shutdown =>
      cases taken
      exact follows.shutdown

/-- A trail leads along every history. -/
theorem runs (follows : session.Follows id trail) (runs : session.Runs history final) :
    final.Follows id (trail.follow history) := by
  induction runs generalizing trail with
  | stay => exact follows
  | step taken _ ih => exact ih (follows.take? taken)

end Follows

/-- The table of a handle that is given has its name. -/
theorem Follows.ofHandle (follows : session.Follows id trail) {issue : StoreCall}
    {reply : StoreReply} {handle : TableHandle}
    (made : session.call? issue = some (.ok reply, next))
    (handed : reply.handle? = some handle) : next.Follows handle.id (.ofHandle handle) := by
  have sound := follows.sound.call? made
  obtain ⟨store, opened, answers, rfl⟩ := call?_eq_some_iff.mp made
  obtain ⟨inUse, takes, _⟩ := follows.working store opened
  obtain ⟨picture, shows⟩ := (follows.sound.working store opened).exists_shows
  obtain ⟨pictured, shown⟩ :=
    Store.simulation_shows store picture shows issue reply answers.symm
  have named := shows.sound.tableName?_of_handle? (Prod.ext pictured rfl) handed
  refine ⟨sound, fun _ => nofun, fun after same => ?_⟩
  cases same
  refine ⟨inUse, Connector.takes_run issue takes, fun name? knows => ?_⟩
  cases knows
  rw [shown.lastTableId, shown.tableName?]
  exact ⟨shown.sound.le_lastTableId named, named⟩

/-- An answer to a call with a handle is as it must be where the table of the handle is known to
be gone, or to have a name. -/
structure Respects (session : Session) (handle : TableHandle)
    (known : Option (Option SchemaTable)) (answer : Except StoreFault StoreReply) : Prop where
  /-- A table that is gone is not found, whatever table has its name now. -/
  gone : known = some none → answer = .error (.tableNotFound handle.name.display)
  renamed : ∀ name, known = some (some name) → name ≠ handle.name →
    answer = .error (.staleHandle handle.name.display name.display)
  stays : known = some (some handle.name) → Outcome.Accepts answer
  /-- The handle is accepted only if its name leads to it. -/
  found : Outcome.Accepts answer →
    session.call? (.tableHandle handle.name) = some (.ok (.found (some handle)), session)

/-- A handle that was given in a session never acts on another table. -/
theorem respects_of_handle {connector : Connector} {disk : Disk} {before : History}
    {session issued later : Session} {issue use : StoreCall} {reply : StoreReply}
    {handle : TableHandle} (reachable : (connector.committed disk).Reachable)
    (earlier : (start connector disk).Runs before session)
    (made : session.call? issue = some (.ok reply, issued))
    (handed : reply.handle? = some handle) (since : issued.Runs history later)
    (addressed : use.handle? = some handle) (used : later.call? use = some (answer, next)) :
    later.Respects handle ((Trail.ofHandle handle).follow history).working answer := by
  have started : (start connector disk).Follows handle.id ⟨none, none⟩ :=
    ⟨.start reachable, fun _ => nofun, nofun⟩
  have follows := ((started.runs earlier).ofHandle made handed).runs since
  obtain ⟨store, opened, rfl, rfl⟩ := call?_eq_some_iff.mp used
  obtain ⟨_, _, places⟩ := follows.working store opened
  obtain ⟨picture, shows⟩ := (follows.sound.working store opened).exists_shows
  have checked := shows.checked_run addressed
  constructor
  case gone =>
    intro known
    rw [(places none known).2] at checked
    exact checked.refused _ rfl
  case renamed =>
    intro name known other
    rw [(places (some name) known).2] at checked
    exact checked.refused _ (if_neg other)
  case stays =>
    intro known
    rw [(places (some handle.name) known).2] at checked
    exact checked.accepted _ (if_pos rfl)
  case found =>
    intro accepts
    have leads := shows.tableHandle?_eq_some_iff.mpr (checked.eq_name accepts)
    have same : later = { later with working := some store } := by rw [← opened]
    have asked : (StoreCall.tableHandle handle.name).run store =
        (.ok (.found (MetadataStore.tableHandle? store handle.name)), store) := rfl
    rw [call?_of_working opened, asked, leads, ← same]

/-- A session in which a table has just been made. -/
def withTable : Session where
  connector := { name := "c", backend := .embedded {} }
  disk := {}
  working := some ((StoreCall.createTable "s" { name := "t" }).run
    ((StoreCall.createSchema "s" .empty).run (Store.relational {})).2).2

/-- The table gets another name, and is dropped with its schema after that, while there is always
another table under its first name. -/
def successors : History := [
  (.call (.renameTable ⟨1, ⟨"s", "t"⟩⟩ ⟨"s", "u"⟩), .ok .done),
  (.call (.createTable "s" { name := "t" }), .ok (.created ⟨2, ⟨"s", "t"⟩⟩)),
  (.commit, .ok .done),
  (.begin, .ok .done),
  (.call (.setTableComment ⟨1, ⟨"s", "t"⟩⟩ none), .error (.staleHandle "s.t" "s.u")),
  (.call (.dropSchema "s" true), .ok .done),
  (.call (.createSchema "s" .empty), .ok .done),
  (.call (.createTable "s" { name := "t" }), .ok (.created ⟨3, ⟨"s", "t"⟩⟩))]

theorem respects_successors : ∃ later next : Session, withTable.Runs successors later ∧
    later.call? (.tableHandle ⟨"s", "t"⟩) =
      some (.ok (.found (some ⟨3, ⟨"s", "t"⟩⟩)), later) ∧
    later.call? (.dropTable ⟨1, ⟨"s", "t"⟩⟩) = some (.error (.tableNotFound "s.t"), next) ∧
    later.Respects ⟨1, ⟨"s", "t"⟩⟩ (some none) (.error (.tableNotFound "s.t")) := by
  have reachable : (withSchema.connector.committed withSchema.disk).Reachable := .relational
  have earlier : (start withSchema.connector withSchema.disk).Runs
      [(.begin, .ok .done), (.call (.createSchema "s" .empty), .ok .done)] withSchema :=
    .step rfl (.step rfl (.stay _))
  have made : withSchema.call? (.createTable "s" { name := "t" }) =
    some (.ok (.created ⟨1, ⟨"s", "t"⟩⟩), withTable) := rfl
  have since : withTable.Runs successors _ :=
    .step rfl (.step rfl (.step rfl (.step rfl (.step rfl (.step rfl (.step rfl (.step rfl
      (.stay _))))))))
  have respects {next : Session} (used : call? _ (.dropTable ⟨1, ⟨"s", "t"⟩⟩) =
      some (.error (.tableNotFound "s.t"), next)) :=
    respects_of_handle reachable earlier made rfl since rfl used
  exact ⟨_, _, since, rfl, rfl, respects rfl⟩

end Session

end CatalogGateway
