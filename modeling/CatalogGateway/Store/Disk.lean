import CatalogGateway.Store.Place
import CatalogGateway.Store.Relational

/-!
# Disks

A disk keeps relational stores that outlive their connectors: each in a file, or in
memory for as long as some connector has a way to it open.  A path is followed name by
name from the root, and a name that is not there does no harm as long as the path leads
back out of it.
-/

namespace CatalogGateway

/-- A file that no store can be kept in. -/
inductive Obstacle where
  /-- It holds something else. -/
  | occupied
  /-- It is a device that holds nothing, with the fault of writing to it. -/
  | device (fault : String)
deriving DecidableEq, Inhabited, Repr

/-- The relational stores that outlive their connectors. -/
structure Disk where
  /-- The directories that there are besides the root. -/
  directories : List DiskPath := []
  /-- The files that no store can be kept in. -/
  obstacles : List (DiskPath × Obstacle) := []
  /-- The files that were made for stores that could not be laid out. -/
  blanks : List DiskPath := []
  /-- Where relative paths start. -/
  workingDirectory : DiskPath := []
  /-- A word that stands for the path of a directory in the text of an address. -/
  shorthand : Option (String × String) := none
  stores : List (Place × Metastore) := []
  /-- The ways to stores that connectors have open. -/
  accesses : List StoreAccess := []
deriving Inhabited

namespace Disk

/-- Whether a store is kept in a place. -/
def holds (disk : Disk) (place : Place) : Bool :=
  disk.stores.any fun entry => entry.1 = place

/-- The store that is kept in a place, an empty one if nothing has been written. -/
def load (disk : Disk) (place : Place) : Metastore :=
  (disk.stores.lookup place).getD {}

def save (disk : Disk) (place : Place) (store : Metastore) : Disk :=
  { disk with stores := (place, store) :: disk.stores.filter fun entry => entry.1 ≠ place }

/-- The disk after a way to a store was opened, even if the store cannot be laid out: a
file is there. -/
def touch (disk : Disk) (access : StoreAccess) : Disk :=
  match access.place with
  | .file path => { disk with blanks := path :: disk.blanks }
  | _ => disk

/-- Keep a way to a store open, which lays out an empty store where there is none. -/
def establish (disk : Disk) (access : StoreAccess) : Disk :=
  let opened := { disk with accesses := access :: disk.accesses }
  if disk.holds access.place then opened else opened.save access.place {}

/-- Close all ways to stores but the given ones, and forget the stores in memory that no
way leads to any more. -/
def retain (disk : Disk) (accesses : List StoreAccess) : Disk :=
  { disk with
    accesses
    stores := disk.stores.filter fun entry =>
      match entry.1 with
      | .file _ => true
      | place => accesses.any fun access => access.place = place }

/-- The way through a cache that is open. -/
def cached? (disk : Disk) (key : CacheKey) : Option StoreAccess :=
  disk.accesses.find? fun access => access.cache = some key

def isDirectory (disk : Disk) (path : DiskPath) : Bool :=
  path = [] || disk.directories.contains path

def isFile (disk : Disk) (path : DiskPath) : Bool :=
  disk.holds (.file path) || disk.blanks.contains path ||
    disk.obstacles.any fun entry => entry.1 = path

/-- Go on from a path by a name.  There is no way through a file, and a directory has no
entry with a name that is too long. -/
def follow (disk : Disk) (path : DiskPath) (name : Octets) : Option DiskPath :=
  if name = [] || name = Octets.ofText "." then some path
  else if name = Octets.ofText ".." then some path.dropLast
  else
    let isUnheard := DiskPath.nameLimit < name.length && disk.isDirectory path
    let next := path ++ [name]
    if isUnheard || disk.isFile path || DiskPath.walkLimit < next.toOctets.length then none
    else some next

/-- Follow the text of a path by a rule for its names. -/
def walk (disk : Disk) (octets : Octets) (rule : DiskPath → Octets → Option DiskPath) :
    Option DiskPath :=
  let slash := Octets.ofAscii '/'
  let start := if octets.head? = some slash then [] else disk.workingDirectory
  (octets.splitOn slash).foldlM rule start

/-- The path that the text of a path leads to, which is not the root. -/
def resolve? (disk : Disk) (octets : Octets) : Option DiskPath :=
  (disk.walk octets disk.follow).filter (· ≠ [])

/-- Go on from a directory to what it holds under a name. -/
def enter (disk : Disk) (path : DiskPath) (name : Octets) : Option DiskPath :=
  if !disk.isDirectory path then none
  else if name = [] || name = Octets.ofText "." then some path
  else if name = Octets.ofText ".." then some path.dropLast
  else
    let next := path ++ [name]
    if disk.isDirectory next || disk.isFile next then some next else none

/-- Whether the text of a path names something that is there, step by step. -/
def isThere (disk : Disk) (octets : Octets) : Bool :=
  octets ≠ [] && (disk.walk octets disk.enter).isSome

end Disk

end CatalogGateway
