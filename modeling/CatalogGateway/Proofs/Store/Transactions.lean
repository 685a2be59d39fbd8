import CatalogGateway.Proofs.Store.Sessions
import Mathlib.Data.List.InsertIdx

/-!
# Transactions on both connectors

A connector to a new store in memory and a connector to an empty relational store answer
alike.  They are given the same transactions, each a list of calls that is committed or
dropped.  A transaction in which a table is refused ends there and is dropped, and the types
that are written can be read back from their texts.
-/

namespace CatalogGateway

/-- Whether a type is read back from the text that a relational store keeps of it. -/
def EngineType.RoundTrips (type : EngineType) : Prop :=
  Metastore.readStored EngineType.ofJson? type.toJson = .ok type

theorem EngineType.roundTrips_iff {type : EngineType} : type.RoundTrips ↔ type.Legible := by
  rw [RoundTrips, Metastore.readStored_type_eq_ok_iff]
  simp

/-- The types that a call writes. -/
def StoreCall.writtenTypes : StoreCall → List EngineType
  | createTable _ table => table.columns.map EngineColumn.type
  | addColumn _ column _ => [column.type]
  | setColumnType _ _ type => [type]
  | _ => []

namespace MemoryTable

/-- All types of the columns can be read back. -/
def Legible (table : MemoryTable) : Prop :=
  ∀ column ∈ table.columns, column.type.Legible

theorem legible_mapColumn {table : MemoryTable} {column : String}
    {change : EngineColumn → EngineColumn} (legible : table.Legible)
    (types : ∀ present, present.type.Legible → (change present).type.Legible) :
    (table.mapColumn column change).Legible := by
  intro changed member
  obtain ⟨present, inTable, rfl⟩ := List.mem_map.mp member
  split
  · exact types present (legible present inTable)
  · exact legible present inTable

end MemoryTable

namespace MemoryStore

/-- All types of the columns of all tables can be read back. -/
def Legible (store : MemoryStore) : Prop :=
  ∀ entry ∈ store.tables, entry.2.Legible

variable {store : MemoryStore}

theorem legible_mapTable {id : Nat} {change : MemoryTable → MemoryTable}
    (legible : store.Legible) (changed : ∀ table, table.Legible → (change table).Legible) :
    (store.mapTable id change).Legible := by
  intro entry member
  obtain ⟨⟨present, table⟩, inStore, rfl⟩ := List.mem_map.mp member
  split
  · exact changed table (legible _ inStore)
  · exact legible _ inStore

/-- A store stays legible when the types that are written can be read back. -/
theorem Legible.run (legible : store.Legible) (call : StoreCall)
    (written : ∀ type ∈ call.writtenTypes, type.Legible) : (call.run store).2.Legible := by
  cases call with
  | schemaNames | hasSchema | schemaProperties | tableNames | tableHandle | tableMetadata
  | columnHandles => exact legible
  | createSchema schema properties => exact MetadataStore.guarded_keeps legible fun _ _ => legible
  | dropSchema schema cascade =>
      exact MetadataStore.guarded_keeps legible fun _ _ entry member =>
        legible entry (List.mem_filter.mp member).1
  | createTable schema table =>
      refine MetadataStore.guarded_keeps legible fun _ _ entry member => ?_
      rcases List.mem_append.mp member with present | added
      · exact legible entry present
      · obtain rfl := List.mem_singleton.mp added
        exact fun column inTable => written _ (List.mem_map_of_mem inTable)
  | dropTable handle =>
      exact MetadataStore.guarded_keeps legible fun _ _ entry member =>
        legible entry (List.mem_filter.mp member).1
  | addColumn handle column ordinal =>
      refine MetadataStore.guarded_keeps legible fun index _ =>
        legible_mapTable legible fun table before => ?_
      intro present member
      rcases List.eq_or_mem_of_mem_insertIdx member with rfl | inTable
      · exact written _ List.mem_cons_self
      · exact before present inTable
  | dropColumn handle column =>
      refine MetadataStore.guarded_keeps legible fun _ _ =>
        legible_mapTable legible fun _ before => ?_
      intro present member
      exact before present (List.mem_filter.mp member).1
  | setColumnType handle column type =>
      refine MetadataStore.guarded_keeps legible fun _ _ =>
        legible_mapTable legible fun _ before => ?_
      exact MemoryTable.legible_mapColumn before fun _ _ => written type List.mem_cons_self
  | renameColumn _ _ _ | setColumnComment _ _ _ =>
      refine MetadataStore.guarded_keeps legible fun _ _ =>
        legible_mapTable legible fun _ before => ?_
      exact MemoryTable.legible_mapColumn before fun _ kept => kept
  | renameTable _ _ | setTableComment _ _ | setTableProperties _ _ =>
      exact MetadataStore.guarded_keeps legible fun _ _ =>
        legible_mapTable legible fun _ before => before

end MemoryStore

/-- The calls of a transaction, and whether it is committed in the end or dropped. -/
structure Transaction where
  calls : List StoreCall
  commits : Bool

/-- The answers to calls. -/
abbrev StoreAnswers := List (Except StoreFault StoreReply)

/-- Where a table was refused, no more is called and nothing is committed. -/
def DropsRefusedTables (commits : Bool) : List StoreCall → StoreAnswers → Prop
  | .createTable _ _ :: rest, .error _ :: _ => rest = [] ∧ commits = false
  | _ :: rest, _ :: answers => DropsRefusedTables commits rest answers
  | _, _ => True

namespace Session

/-- A session on a connector without an open transaction. -/
def start (connector : Connector) (disk : Disk) : Session where
  connector := connector
  disk := disk

/-- Carry out a transaction. -/
def transact? (session : Session) (transaction : Transaction) :
    Option (StoreAnswers × Session) := do
  let (.ok _, opened) := session.begin | none
  let (answers, final) ← opened.calls? transaction.calls
  let closed ← if transaction.commits then final.commit? else some final.rollback
  return (answers, closed)

/-- Carry out transactions one after the other. -/
def transactAll? (session : Session) : List Transaction → Option (List StoreAnswers × Session)
  | [] => some ([], session)
  | transaction :: rest => do
    let (answers, after) ← session.transact? transaction
    let (others, final) ← after.transactAll? rest
    return (answers :: others, final)

/-- The answers to the calls of transactions. -/
def answers? (session : Session) (transactions : List Transaction) :
    Option (List StoreAnswers) :=
  (session.transactAll? transactions).map Prod.fst

end Session

section Simulation

/-- Two sessions between transactions whose connectors hold the same. -/
structure SameStores (memory relational : Session) (picture : MemoryStore) (rows : Metastore) :
    Prop where
  memoryHolds : memory.connector.committed memory.disk = .memory picture
  relationalHolds : relational.connector.committed relational.disk = .relational rows
  memoryInUse : memory.connector.shutdowns = 0
  relationalInUse : relational.connector.shutdowns = 0
  shows : rows.Shows picture
  legible : picture.Legible

/-- A call on stores that hold the same is answered alike.  Unless a table is refused, the
stores hold the same afterwards. -/
theorem run_alike {picture : MemoryStore} {rows : Metastore} (shows : rows.Shows picture)
    (legible : picture.Legible) (call : StoreCall)
    (written : ∀ type ∈ call.writtenTypes, type.RoundTrips) :
    (call.run rows).1 = (call.run picture).1 ∧
      ((∃ schema table fault, call = .createTable schema table ∧
          (call.run picture).1 = .error fault) ∨
        ((call.run rows).2.Shows (call.run picture).2 ∧ (call.run picture).2.Legible)) := by
  have still := legible.run call fun type member =>
    EngineType.roundTrips_iff.mp (written type member)
  cases shows.mirrors call with
  | alike answer depicts => exact ⟨answer, Or.inr ⟨shows.next depicts, still⟩⟩
  | @illegible _ handle table column _ found present deep _ _ =>
      have lookup := (MemoryStore.table_eq_ok_iff.mp found).1
      exact absurd (legible _ (shows.sound.mem_iff.mpr lookup) column present) deep
  | abandoned _ _ answer shown _ =>
      refine ⟨answer.trans (congrArg Prod.fst shown).symm, Or.inl ?_⟩
      exact ⟨_, _, _, rfl, congrArg Prod.fst shown⟩

theorem DropsRefusedTables.tail {commits : Bool} {call : StoreCall} {rest : List StoreCall}
    {answer : Except StoreFault StoreReply} {answers : StoreAnswers}
    (drops : DropsRefusedTables commits (call :: rest) (answer :: answers)) :
    DropsRefusedTables commits rest answers := by
  cases call with
  | createTable schema table =>
      cases answer with
      | ok reply => exact drops
      | error fault =>
          obtain ⟨rfl, -⟩ := drops
          cases answers <;> trivial
  | _ => exact drops

namespace Session

variable {memory relational : Session}

theorem calls?_cons {session : Session} {store : Store} (opened : session.working = some store)
    (call : StoreCall) (rest : List StoreCall) :
    session.calls? (call :: rest) =
      (calls? { session with working := some (call.run store).2 } rest).map
        fun ran : StoreAnswers × Session => ((call.run store).1 :: ran.1, ran.2) := by
  rw [calls?, call?_of_working opened]
  cases ran : calls? { session with working := some (call.run store).2 } rest with
  | none => simp [ran]
  | some result => simp [ran]

theorem exists_calls? {picture : MemoryStore} (opened : memory.working = some (.memory picture))
    (calls : List StoreCall) :
    ∃ answers last, memory.calls? calls =
      some (answers, { memory with working := some (.memory last) }) := by
  induction calls generalizing memory picture with
  | nil => exact ⟨[], picture, by rw [calls?, ← opened]⟩
  | cons call rest ih =>
      rw [calls?_cons opened, StoreCall.run_memory]
      have advanced : ({ memory with working := some (.memory (call.run picture).2) } :
          Session).working = some (.memory (call.run picture).2) := rfl
      obtain ⟨answers, last, ran⟩ := ih advanced
      exact ⟨(call.run picture).1 :: answers, last, by rw [ran]; rfl⟩

theorem calls?_alike {picture last : MemoryStore} {rows : Metastore} {commits : Bool}
    {calls : List StoreCall} {answers : StoreAnswers}
    (memoryOpened : memory.working = some (.memory picture))
    (relationalOpened : relational.working = some (.relational rows))
    (shows : rows.Shows picture) (legible : picture.Legible)
    (written : ∀ call ∈ calls, ∀ type ∈ call.writtenTypes, type.RoundTrips)
    (ran : memory.calls? calls =
      some (answers, { memory with working := some (.memory last) }))
    (drops : DropsRefusedTables commits calls answers) :
    ∃ lastRows, relational.calls? calls =
        some (answers, { relational with working := some (.relational lastRows) }) ∧
      (commits = true → lastRows.Shows last ∧ last.Legible) := by
  induction calls generalizing memory relational picture rows answers with
  | nil =>
      rw [calls?, Option.some.injEq, Prod.mk.injEq] at ran
      obtain ⟨rfl, same⟩ := ran
      have works := congrArg Session.working same
      rw [memoryOpened] at works
      cases works
      exact ⟨rows, by rw [calls?, ← relationalOpened], fun _ => ⟨shows, legible⟩⟩
  | cons call rest ih =>
      rw [calls?_cons memoryOpened, StoreCall.run_memory, Option.map_eq_some_iff] at ran
      obtain ⟨⟨others, final⟩, ranRest, same⟩ := ran
      cases same
      rw [calls?_cons relationalOpened, StoreCall.run_relational]
      obtain ⟨answer, refused | ⟨next, still⟩⟩ :=
        run_alike shows legible call (written call List.mem_cons_self)
      · obtain ⟨schema, table, fault, rfl, refusal⟩ := refused
        rw [refusal] at drops
        obtain ⟨rfl, rfl⟩ := drops
        rw [calls?, Option.some.injEq, Prod.mk.injEq] at ranRest
        obtain ⟨rfl, -⟩ := ranRest
        exact ⟨_, by rw [calls?, answer]; rfl, fun impossible => by contradiction⟩
      · have advanced : ({ relational with working := some (.relational (call.run rows).2) } :
            Session).working = some (.relational (call.run rows).2) := rfl
        obtain ⟨lastRows, ranOther, ends⟩ := ih rfl advanced next still
          (fun later member => written later (List.mem_cons_of_mem _ member)) ranRest drops.tail
        exact ⟨lastRows, by rw [ranOther, answer]; rfl, ends⟩

theorem begin_of_committed {session : Session} {store : Store}
    (holds : session.connector.committed session.disk = store)
    (inUse : session.connector.shutdowns = 0) :
    session.begin = (.ok (), { session with working := some store }) := by
  rw [Session.begin, Connector.begin_of_inUse inUse, holds]

/-- The session after its transaction ended with a copy. -/
def afterEnd (session : Session) (commits : Bool) (copy : Store) : Session :=
  if commits then
    start (session.connector.commit session.disk copy).1
      (session.connector.commit session.disk copy).2
  else start session.connector session.disk

theorem transact?_of_calls? {session : Session} {transaction : Transaction}
    {store last : Store} {answers : StoreAnswers}
    (holds : session.connector.committed session.disk = store)
    (inUse : session.connector.shutdowns = 0)
    (ran : calls? { session with working := some store } transaction.calls =
      some (answers, { session with working := some last })) :
    session.transact? transaction =
      some (answers, session.afterEnd transaction.commits last) := by
  have begun := begin_of_committed holds inUse
  cases commits : transaction.commits <;>
    simp [transact?, begun, ran, commits, commit?, rollback, afterEnd, start]

/-- A transaction on a store in memory is answered, and leaves a store in memory. -/
theorem exists_transact? {picture : MemoryStore}
    (holds : memory.connector.committed memory.disk = .memory picture)
    (inUse : memory.connector.shutdowns = 0) (transaction : Transaction) :
    ∃ answers last,
      calls? { memory with working := some (.memory picture) } transaction.calls =
        some (answers, { memory with working := some (.memory last) }) ∧
      memory.transact? transaction =
        some (answers, memory.afterEnd transaction.commits (.memory last)) := by
  have opened : ({ memory with working := some (.memory picture) } : Session).working =
      some (.memory picture) := rfl
  obtain ⟨answers, last, ran⟩ := exists_calls? opened transaction.calls
  exact ⟨answers, last, ran, transact?_of_calls? holds inUse ran⟩

theorem shutdowns_afterEnd (session : Session) (commits : Bool) (copy : Store) :
    (session.afterEnd commits copy).connector.shutdowns = session.connector.shutdowns := by
  rw [afterEnd]
  split
  · exact Connector.shutdowns_commit _ _ _
  · rfl

theorem committed_afterEnd_memory {picture last : MemoryStore} {commits : Bool}
    (holds : memory.connector.committed memory.disk = .memory picture) :
    (memory.afterEnd commits (.memory last)).connector.committed
      (memory.afterEnd commits (.memory last)).disk =
        .memory (if commits then last else picture) := by
  cases commits with
  | true => exact Connector.committed_commit_memory holds
  | false => exact holds

theorem committed_afterEnd_relational {rows last : Metastore} {commits : Bool}
    (holds : relational.connector.committed relational.disk = .relational rows) :
    (relational.afterEnd commits (.relational last)).connector.committed
      (relational.afterEnd commits (.relational last)).disk =
        .relational (if commits then last else rows) := by
  cases commits with
  | true => exact Connector.committed_commit_relational holds
  | false => exact holds

/-- A transaction on connectors that hold the same is answered alike, and they hold the same
afterwards. -/
theorem transact?_alike {picture : MemoryStore} {rows : Metastore} {transaction : Transaction}
    {answers : StoreAnswers} {after : Session}
    (same : SameStores memory relational picture rows)
    (written : ∀ call ∈ transaction.calls, ∀ type ∈ call.writtenTypes, type.RoundTrips)
    (ran : memory.transact? transaction = some (answers, after))
    (drops : DropsRefusedTables transaction.commits transaction.calls answers) :
    ∃ other nextPicture nextRows, relational.transact? transaction = some (answers, other) ∧
      SameStores after other nextPicture nextRows := by
  obtain ⟨_, last, calls, transacted⟩ :=
    exists_transact? same.memoryHolds same.memoryInUse transaction
  rw [ran] at transacted
  cases transacted
  have opened : ({ relational with working := some (.relational rows) } : Session).working =
      some (.relational rows) := rfl
  obtain ⟨lastRows, relationalCalls, ends⟩ :=
    calls?_alike rfl opened same.shows same.legible written calls drops
  refine ⟨_, if transaction.commits then last else picture,
    if transaction.commits then lastRows else rows,
    transact?_of_calls? same.relationalHolds same.relationalInUse relationalCalls, ?_⟩
  have holds : (if transaction.commits then lastRows else rows).Shows
      (if transaction.commits then last else picture) ∧
        (if transaction.commits then last else picture).Legible := by
    split
    · exact ends ‹_›
    · exact ⟨same.shows, same.legible⟩
  exact {
    memoryHolds := committed_afterEnd_memory same.memoryHolds
    relationalHolds := committed_afterEnd_relational same.relationalHolds
    memoryInUse := (shutdowns_afterEnd _ _ _).trans same.memoryInUse
    relationalInUse := (shutdowns_afterEnd _ _ _).trans same.relationalInUse
    shows := holds.1
    legible := holds.2 }

theorem exists_transactAll? {picture : MemoryStore}
    (holds : memory.connector.committed memory.disk = .memory picture)
    (inUse : memory.connector.shutdowns = 0) (transactions : List Transaction) :
    ∃ answers after, memory.transactAll? transactions = some (answers, after) := by
  induction transactions generalizing memory picture with
  | nil => exact ⟨[], memory, rfl⟩
  | cons transaction rest ih =>
      obtain ⟨answers, last, _, transacted⟩ := exists_transact? holds inUse transaction
      obtain ⟨others, after, ran⟩ := ih (committed_afterEnd_memory holds)
        ((shutdowns_afterEnd _ transaction.commits (.memory last)).trans inUse)
      exact ⟨answers :: others, after, by simp [transactAll?, transacted, ran]⟩

theorem transactAll?_alike {picture : MemoryStore} {rows : Metastore}
    {transactions : List Transaction} {answers : List StoreAnswers} {after : Session}
    (same : SameStores memory relational picture rows)
    (written : ∀ transaction ∈ transactions, ∀ call ∈ transaction.calls,
      ∀ type ∈ call.writtenTypes, type.RoundTrips)
    (ran : memory.transactAll? transactions = some (answers, after))
    (drops : ∀ pair ∈ transactions.zip answers,
      DropsRefusedTables pair.1.commits pair.1.calls pair.2) :
    ∃ other, relational.transactAll? transactions = some (answers, other) := by
  induction transactions generalizing memory relational picture rows answers with
  | nil =>
      cases ran
      exact ⟨relational, rfl⟩
  | cons transaction rest ih =>
      obtain ⟨⟨first, middle⟩, transacted, rests⟩ := Option.bind_eq_some_iff.mp ran
      obtain ⟨⟨others, final⟩, ranRest, same'⟩ := Option.bind_eq_some_iff.mp rests
      cases same'
      obtain ⟨other, _, _, transactedOther, next⟩ :=
        transact?_alike same (written transaction List.mem_cons_self) transacted
          (drops (transaction, first) List.mem_cons_self)
      obtain ⟨last, ranOther⟩ := ih next
        (fun later member => written later (List.mem_cons_of_mem _ member)) ranRest
        fun pair member => drops pair (List.mem_cons_of_mem _ member)
      exact ⟨last, by simp [transactAll?, transactedOther, ranOther]⟩

end Session

end Simulation

/-- A connector to a new store in memory without a limit and a connector to an empty relational
store give the same answers to the same transactions, as long as a transaction in which a table
is refused ends there and is dropped. -/
theorem answers?_alike (name : String) (memoryDisk : Disk) (connector : Connector) (disk : Disk)
    (fresh : connector.committed disk = .relational {}) (inUse : connector.shutdowns = 0)
    (transactions : List Transaction)
    (written : ∀ transaction ∈ transactions, ∀ call ∈ transaction.calls,
      ∀ type ∈ call.writtenTypes, type.RoundTrips) :
    ∃ answers,
      (Session.start (.inMemory name none) memoryDisk).answers? transactions = some answers ∧
      ((∀ pair ∈ transactions.zip answers,
          DropsRefusedTables pair.1.commits pair.1.calls pair.2) →
        (Session.start connector disk).answers? transactions = some answers) := by
  have same : SameStores (Session.start (.inMemory name none) memoryDisk)
      (Session.start connector disk) { connector := name } {} := {
    memoryHolds := rfl
    relationalHolds := fresh
    memoryInUse := rfl
    relationalInUse := inUse
    shows := Metastore.Shows.fresh name
    legible := fun _ member => by cases member }
  obtain ⟨answers, after, ran⟩ :=
    Session.exists_transactAll? same.memoryHolds same.memoryInUse transactions
  refine ⟨answers, by rw [Session.answers?, ran]; rfl, fun drops => ?_⟩
  obtain ⟨other, ranOther⟩ := Session.transactAll?_alike same written ran drops
  rw [Session.answers?, ranOther]
  rfl

/-- Two transactions: one makes a table and is committed, one is dropped after a table is
refused. -/
def sampleTransactions : List Transaction := [
  ⟨[.createSchema "s" .empty, .createTable "s" { name := "t", columns := [
      { name := "x", type := .integer }, { name := "y", type := .array .date }] },
    .dropColumn ⟨1, ⟨"s", "t"⟩⟩ "x", .columnHandles ⟨1, ⟨"s", "t"⟩⟩], true⟩,
  ⟨[.createTable "s" { name := "u", columns := [
      { name := "x", type := .integer }, { name := "x", type := .date }] }], false⟩]

theorem sampleTransactions_answers :
    (Session.start { name := "r", backend := .embedded {} } {}).answers? sampleTransactions =
      some [[.ok .done, .ok (.created ⟨1, ⟨"s", "t"⟩⟩), .ok .done, .ok (.columns [⟨"y", 0⟩])],
        [.error (.columnExists "s.u" "x")]] := by
  have written : ∀ transaction ∈ sampleTransactions, ∀ call ∈ transaction.calls,
      ∀ type ∈ call.writtenTypes, type.RoundTrips := by
    simp only [EngineType.roundTrips_iff]
    decide
  obtain ⟨answers, ran, alike⟩ := answers?_alike "m" {} { name := "r", backend := .embedded {} } {}
    rfl rfl sampleTransactions written
  have computed : (Session.start (.inMemory "m" none) {}).answers? sampleTransactions =
      some [[.ok .done, .ok (.created ⟨1, ⟨"s", "t"⟩⟩), .ok .done, .ok (.columns [⟨"y", 0⟩])],
        [.error (.columnExists "s.u" "x")]] := rfl
  obtain rfl := Option.some.inj (ran.symm.trans computed)
  exact alike (by simp [sampleTransactions, DropsRefusedTables])

end CatalogGateway
