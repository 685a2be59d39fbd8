import CatalogGateway.Store.Address
import CatalogGateway.Store.Disk
import CatalogGateway.Store.Sealed

/-!
# Opening relational stores

The address of a store is followed to a location, and the store is laid out there unless
there is one.  Either step can fail; a file that was opened is there even if no store
could be laid out in it.
-/

namespace CatalogGateway

/-- What the address of a relational store comes to. -/
inductive Location where
  /-- A new store of the connector's own, in memory. -/
  | own (isReadOnly : Bool)
  | kept (access : StoreAccess)
deriving DecidableEq, Inhabited, Repr

/-- What the address of a relational store is of. -/
inductive Target where
  /-- A store in memory whatever the layer. -/
  | memory
  | layerInMemory
  | file (path : DiskPath)
deriving DecidableEq, Inhabited, Repr

namespace Disk

/-- The fault of a file that can be opened but not read. -/
def unreadable : StoreFault :=
  .storage "disk I/O error"

/-- The file of an address, or `none` if it cannot be opened. -/
def locateFile (disk : Disk) (address : StoreAddress) (path : DiskPath)
    (cache : Option CacheKey) : Except StoreFault (Option Location) :=
  if DiskPath.storeLimit < path.toOctets.length then .ok none
  else if address.pattern.any fun pattern => !disk.isThere pattern then .error unreadable
  else if disk.isDirectory path then
    if address.mode = .readOnly then .error unreadable else .ok none
  else if disk.isFile path || (address.mode = .create && disk.isDirectory path.dropLast) then
    .ok (some (.kept { place := .file path, isReadOnly := address.isSealed, cache }))
  else .ok none

/-- The number of bytes that the name of a store of the layer in memory may have. -/
def memoryNameLimit : Nat := 1016

/-- The number of bytes after which that layer breaks a name off. -/
def memoryNameLength : Nat := 1024

/-- A store in memory: one that connectors share, or one of the connector's own. -/
def inMemory (place : Option Place) (isReadOnly : Bool) (cache : Option CacheKey) : Location :=
  match place with
  | some place => .kept { place, isReadOnly, cache }
  | none => .own isReadOnly

/-- The store of the layer in memory that an address names, or `none` if it cannot be
opened. -/
def locateMemory (address : StoreAddress) (cache : Option CacheKey) : Option Location :=
  if memoryNameLimit < address.path.length then none
  else
    let place := if address.isNamed then some (.memory address.path) else cache.map .cache
    some (inMemory place address.isSealed cache)

/-- What an address is of, or `none` if its path leads nowhere. -/
def target? (disk : Disk) (address : StoreAddress) : Option Target :=
  if address.isInMemory then some .memory
  else if address.layer = StoreAddress.memoryLayer then some .layerInMemory
  else (disk.resolve? address.path).map .file

/-- The cache that connectors to an address share, if they share one. -/
def cacheKey? (address : StoreAddress) (target : Target) : Option CacheKey :=
  let name := match target with
    | .memory => address.path
    | .layerInMemory => address.path.take memoryNameLength
    | .file path => path.toOctets
  if address.shared then some ⟨address.layer, name⟩ else none

/-- Where an address leads, or `none` if the store cannot be opened.  A cache that is
open leads to its store, whatever else the address asks for. -/
def locateAddress (disk : Disk) (address : StoreAddress) :
    Except StoreFault (Option Location) :=
  let isReadOnly := address.mode = .readOnly
  if address.path = [] then .ok (some (.own isReadOnly))
  else match disk.target? address with
    | none => .ok none
    | some target =>
      let cache := cacheKey? address target
      match cache.bind disk.cached?, target with
      | some access, _ => .ok (some (.kept access))
      | none, .memory => .ok (some (inMemory (cache.map .cache) isReadOnly cache))
      | none, .layerInMemory => .ok (locateMemory address cache)
      | none, .file path => disk.locateFile address path cache

/-- The text of an address with the directory that a shorthand stands for. -/
def expand (disk : Disk) (text : String) : String :=
  match disk.shorthand with
  | none => text
  | some (word, directory) => text.replace word directory

def readAddress (disk : Disk) (text : String) : Except StoreFault StoreAddress :=
  match (Octets.ofText text).findIdx? (· = 0) with
  | some position =>
    .error (.storage s!"nul byte found in provided data at position: {position}")
  | none => StoreAddress.ofText (disk.expand text)

/-- Refuse a file that cannot be locked. -/
def lock (disk : Disk) (address : StoreAddress) (path : DiskPath) : Except StoreFault Unit :=
  let lockPath := path.beside DiskPath.lockSuffix
  if address.layer ≠ StoreAddress.lockFileLayer || address.isUnlocked || address.isImmutable then
    .ok ()
  else if DiskPath.nameLimit < lockPath.last.length then .error unreadable
  else if disk.isFile lockPath || disk.isDirectory lockPath then
    .error (.storage "database is locked")
  else .ok ()

/-- Refuse a file that holds something else, or that a store cannot be written to. -/
def examine (disk : Disk) (path : DiskPath) (isReadOnly : Bool) : Except StoreFault Unit :=
  let journal := path.beside DiskPath.journalSuffix
  match disk.obstacles.lookup path with
  | some .occupied => .error (.storage "file is not a database")
  | some (.device fault) => if isReadOnly then .ok () else .error (.storage fault)
  | none =>
    if isReadOnly || journal.last.length ≤ DiskPath.nameLimit then .ok ()
    else .error (.storage "unable to open database file")

/-- Lay out a store at a location unless there is one, which takes a way to write. -/
def layOut (disk : Disk) (address : StoreAddress) : Location → Except StoreFault Unit
  | .own isReadOnly => if isReadOnly then .error SealedStore.refusal else .ok ()
  | .kept access => do
    match access.place with
    | .file path =>
      disk.lock address path
      disk.examine path access.isReadOnly
    | .memory _ | .cache _ => .ok ()
    if access.isReadOnly && !disk.holds access.place then .error SealedStore.refusal

def openStore (disk : Disk) (text : String) : Except StoreFault Location × Disk :=
  let located := do
    let address ← disk.readAddress text
    match ← disk.locateAddress address with
    | some location => return (address, location)
    | none => .error (.storage s!"unable to open database file: {text}")
  match located with
  | .error fault => (.error fault, disk)
  | .ok (address, location) =>
    let outcome := (disk.layOut address location).map fun _ => location
    match location, outcome with
    | .own _, _ => (outcome, disk)
    | .kept access, .ok _ => (outcome, disk.establish access)
    | .kept access, .error _ => (outcome, disk.touch access)

end Disk

end CatalogGateway
