import CatalogGateway.Fault
import CatalogGateway.Text.Octets

/-!
# Addresses of relational stores

A relational store is found by a text: the path of a file, or a URI of the scheme
`file`.  The query of a URI can ask for a store in memory, for one that connectors
share, for a file that is there already, or for one that is only read.  Paths are made
of bytes, because a URI may give a name byte by byte.
-/

namespace CatalogGateway

/-- How a store is to be opened. -/
inductive OpenMode where
  | readOnly
  | readWrite
  /-- To read and write a file that is made if there is none. -/
  | create
  | memory
deriving DecidableEq, Inhabited, Repr

/-- Where and how a store is to be opened. -/
structure StoreAddress where
  /-- The path of the file or the name of the store in memory; a store of the
  connector's own may lack it. -/
  path : Octets
  mode : OpenMode := .create
  /-- Whether connectors share the store through one cache. -/
  shared : Bool := false
  /-- The layer of the system that keeps the store. -/
  layer : String := "unix"
  /-- Whether the store is said to change in no way, so that it is only read. -/
  isImmutable : Bool := false
  /-- Whether the store is used without locks. -/
  isUnlocked : Bool := false
  /-- The path of what a new file takes its permissions from. -/
  pattern : Option Octets := none
deriving DecidableEq, Inhabited, Repr

namespace OpenMode

def ofName? (name : String) : Option OpenMode :=
  [("ro", readOnly), ("rw", readWrite), ("rwc", create), ("memory", memory)].lookup name

/-- Whether one mode may be replaced by another, which must not permit more. -/
def admits : OpenMode → OpenMode → Bool
  | _, memory | memory, _ | create, _ => true
  | readWrite, wanted => wanted ≠ create
  | readOnly, wanted => wanted = readOnly

end OpenMode

namespace StoreAddress

/-- What the address of a URI starts with. -/
def scheme : Octets := .ofText "file:"

def lockFileLayer : String := "unix-dotfile"

def fileLayers : List String :=
  ["unix", "unix-none", lockFileLayer, "unix-excl"]

def memoryLayer : String := "memdb"

/-- The bytes that a part of a URI stands for: a percent sign with two hexadecimal
digits gives a byte by its value.  A zero byte ends the part. -/
def unescape : Octets → Octets
  | [] => []
  | first :: high :: low :: rest =>
    match if first = Octets.ofAscii '%' then Octets.hexPair? high low else none with
    | some 0 => []
    | some octet => octet :: unescape rest
    | none => first :: unescape (high :: low :: rest)
  | first :: rest => first :: unescape rest

/-- The number that a switch begins with: in decimal, or in hexadecimal after `0x`.  One
of more than 31 bits counts as zero. -/
def switchNumber (octets : Octets) : Nat :=
  let isMarked := [Octets.ofText "0x", Octets.ofText "0X"].contains (octets.take 2)
  let value :=
    if isMarked then Octets.leadingValue 16 (octets.drop 2)
    else Octets.leadingValue 10 octets
  if value < Nat.pow 2 31 then value else 0

/-- Whether the value of an option switches it on: a number whose last byte is not zero,
or a word. -/
def isOn (octets : Octets) : Bool :=
  if octets.head?.any Octets.isDigit then switchNumber octets % 256 ≠ 0
  else ["on", "yes", "true"].contains octets.toText.toLower

/-- The options of a query.  Those without a name are passed over. -/
def options (query : Octets) : List (String × Octets) :=
  let named := ((query.splitOn (Octets.ofAscii '&')).map (Octets.cutAt '=')).map
    fun (name, value) => (unescape name, unescape value)
  (named.filter fun option => option.1 ≠ []).map fun (name, value) => (Octets.toText name, value)

/-- The address with an option that says how to open it.  Options of other names are
passed over. -/
def withOption (address : StoreAddress) :
    String × Octets → Except StoreFault StoreAddress
  | ("cache", value) =>
    match value.toText with
    | "shared" => .ok { address with shared := true }
    | "private" => .ok { address with shared := false }
    | name => .error (.storage s!"no such cache mode: {name}")
  | ("mode", value) =>
    match OpenMode.ofName? value.toText with
    | none => .error (.storage s!"no such access mode: {value.toText}")
    | some mode =>
      if address.mode.admits mode then .ok { address with mode }
      else .error (.storage s!"access mode not allowed: {value.toText}")
  | ("vfs", value) => .ok { address with layer := value.toText }
  | _ => .ok address

/-- Take off the authority that a URI names between two slashes and the next one, which
can only be this machine. -/
def withoutAuthority (uri : Octets) : Except StoreFault Octets :=
  if (Octets.ofText "//").isPrefixOf uri then
    let authority := (uri.drop 2).takeWhile (· ≠ Octets.ofAscii '/')
    if authority = [] || authority = Octets.ofText "localhost" then
      .ok (uri.drop (2 + authority.length))
    else .error (.storage s!"invalid uri authority: {Octets.toText authority}")
  else .ok uri

/-- The address that a URI gives after its scheme.  A fragment is passed over.  Of the
options that do not say how to open the store, the first of a name counts. -/
def ofUri (uri : Octets) : Except StoreFault StoreAddress := do
  let (named, _) := Octets.cutAt '#' (← withoutAuthority uri)
  let (path, query) := Octets.cutAt '?' named
  let given := options query
  let address ← given.foldlM withOption {
    path := unescape path
    isImmutable := (given.lookup "immutable").any isOn
    isUnlocked := (given.lookup "nolock").any isOn
    pattern := given.lookup "modeof" }
  if (memoryLayer :: fileLayers).contains address.layer then .ok address
  else .error (.storage s!"no such vfs: {address.layer}")

def ofText (text : String) : Except StoreFault StoreAddress :=
  let octets := Octets.ofText text
  if scheme.isPrefixOf octets then ofUri (octets.drop scheme.length)
  else .ok { path := octets }

def isInMemory (address : StoreAddress) : Bool :=
  address.mode = .memory || address.path = Octets.ofText ":memory:"

/-- Whether a store that the layer keeps is only read. -/
def isSealed (address : StoreAddress) : Bool :=
  address.mode = .readOnly || address.isImmutable

/-- Whether connectors to the layer in memory share the store by its name. -/
def isNamed (address : StoreAddress) : Bool :=
  match address.path with
  | first :: _ :: _ => first = Octets.ofAscii '/' || first = Octets.ofAscii '\\'
  | _ => false

end StoreAddress

end CatalogGateway
