import CatalogGateway.Text.Octets

/-!
# Places of relational stores

A relational store that outlives its connectors is kept in a place: in a file, or in
memory.  Connectors that ask for it share one way to a store, the cache, whose key alone
decides what they come to.
-/

namespace CatalogGateway

/-- The names on the way from the root to a file or a directory. -/
abbrev DiskPath := List Octets

/-- What connectors know a cache by. -/
structure CacheKey where
  layer : String
  /-- The path of the file, or the name of a store in memory as it was given. -/
  name : Octets
deriving DecidableEq, Inhabited, Repr

/-- Where a relational store is kept. -/
inductive Place where
  | file (path : DiskPath)
  /-- In memory, under a name that connectors share. -/
  | memory (name : Octets)
  | cache (key : CacheKey)
deriving DecidableEq, Inhabited, Repr

/-- A way to a store that is kept in a place. -/
structure StoreAccess where
  place : Place
  isReadOnly : Bool := false
  /-- The cache that the way leads through, if connectors share one. -/
  cache : Option CacheKey := none
deriving DecidableEq, Inhabited, Repr

namespace DiskPath

/-- The number of bytes that a name may have. -/
def nameLimit : Nat := 255

/-- The number of bytes that a path may have while it is followed. -/
def walkLimit : Nat := 511

/-- The number of bytes that the path of a store may have, which leaves room for the
path of its journal. -/
def storeLimit : Nat := 504

/-- What is appended to the path of a store to make that of its journal. -/
def journalSuffix : Octets := .ofText "-journal"

/-- What is appended to the path of a store to make that of its lock. -/
def lockSuffix : Octets := .ofText ".lock"

/-- The bytes of a path, with a slash before each name. -/
def toOctets (path : DiskPath) : Octets :=
  path.flatMap fun name => Octets.ofAscii '/' :: name

def last (path : DiskPath) : Octets :=
  path.getLastD []

/-- The path of what lies beside a file under its name with a suffix. -/
def beside (path : DiskPath) (suffix : Octets) : DiskPath :=
  path.dropLast ++ [path.last ++ suffix]

end DiskPath

end CatalogGateway
