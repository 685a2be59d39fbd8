import CatalogGateway.Store.Call
import CatalogGateway.Store.Opening

/-!
# Connectors

A connector gives access to one store, one transaction at a time.  A transaction
works on a copy: to commit it is to put the copy in place of the store, to drop it is
to forget the copy.  A relational store may live on a disk, where it outlives the
connector and is shared by all connectors to the same place.
-/

namespace CatalogGateway

/-- Where the store of a connector lives. -/
inductive Backend where
  /-- In memory, for as long as the connector is not shut down. -/
  | memory (store : MemoryStore)
  /-- In a relational store of the connector's own. -/
  | embedded (store : Metastore)
  /-- In a place on a disk. -/
  | kept (access : StoreAccess)
deriving Inhabited

/-- An access to a store. -/
structure Connector where
  name : String
  backend : Backend
  /-- How often the connector was shut down, which takes effect the first time. -/
  shutdowns : Nat := 0
deriving Inhabited

namespace Connector

/-- The path of a relational store of the connector's own. -/
def embeddedPath : String := ":memory:"

def inMemory (name : String) (maxTables : Option Nat) : Connector where
  name := name
  backend := .memory { connector := name, maxTables }

def openPath (disk : Disk) (name path : String) : Except StoreFault Connector × Disk :=
  if path = embeddedPath then (.ok { name, backend := .embedded {} }, disk)
  else
    let (outcome, disk) := disk.openStore path
    let connector := outcome.map fun
      | .own _ => { name, backend := .embedded {} }
      | .kept access => { name, backend := .kept access }
    (connector, disk)

/-- The way to the store of a connector, if it is kept on a disk. -/
def access? (connector : Connector) : Option StoreAccess :=
  match connector.backend with
  | .kept access => some access
  | _ => none

/-- Whether the use of a connector has ended. -/
def isShutDown (connector : Connector) : Bool :=
  connector.shutdowns ≠ 0

def committed (connector : Connector) (disk : Disk) : Store :=
  match connector.backend with
  | .memory store => .memory store
  | .embedded store => .relational store
  | .kept access =>
    let store := disk.load access.place
    if access.isReadOnly then .sealed ⟨store⟩ else .relational store

/-- Open a transaction: the copy of the store that it works on. -/
def begin (connector : Connector) (disk : Disk) : Except StoreFault Store :=
  if connector.isShutDown then .error (.shutDown connector.name)
  else .ok (connector.committed disk)

/-- Put the copy of a transaction in place of the store. -/
def commit (connector : Connector) (disk : Disk) (working : Store) : Connector × Disk :=
  match connector.backend, working with
  | .memory _, .memory store => ({ connector with backend := .memory store }, disk)
  | .embedded _, .relational store => ({ connector with backend := .embedded store }, disk)
  | .kept access, .relational store => (connector, disk.save access.place store)
  | _, _ => (connector, disk)

/-- End the use of a connector, which discards a store in memory. -/
def shutdown (connector : Connector) : Connector :=
  let backend := match connector.backend with
    | .memory store => .memory store.cleared
    | lasting => lasting
  { connector with backend, shutdowns := connector.shutdowns + 1 }

end Connector

/-- A connector with the transaction that is open on it, if one is. -/
structure Session where
  connector : Connector
  disk : Disk
  /-- The copy of the store that the open transaction works on. -/
  working : Option Store := none
deriving Inhabited

namespace Session

/-- Open a transaction, dropping one that is open. -/
def begin (session : Session) : Except StoreFault Unit × Session :=
  match session.connector.begin session.disk with
  | .error fault => (.error fault, { session with working := none })
  | .ok store => (.ok (), { session with working := some store })

/-- Drop the open transaction. -/
def rollback (session : Session) : Session :=
  { session with working := none }

/-- Commit the open transaction; there must be one. -/
def commit? (session : Session) : Option Session := do
  let working ← session.working
  let (connector, disk) := session.connector.commit session.disk working
  return { connector, disk }

/-- Shut the connector down, dropping a transaction that is open. -/
def shutdown (session : Session) : Session :=
  { session with connector := session.connector.shutdown, working := none }

/-- Carry out an operation in the open transaction; there must be one. -/
def call? (session : Session) (call : StoreCall) :
    Option (Except StoreFault StoreReply × Session) := do
  let store ← session.working
  let (reply, after) := call.run store
  return (reply, { session with working := some after })

end Session

end CatalogGateway
