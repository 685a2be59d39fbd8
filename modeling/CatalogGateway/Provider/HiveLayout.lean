import CatalogGateway.Provider.Basic
import CatalogGateway.Text.Identifier

/-!
# Layouts in a hive catalog

Partitions are by the value of a column, rows are spread by hash only, and sorting
happens within the buckets of a hash.  Each part is stored under its own key.
-/

namespace CatalogGateway

namespace HiveLayout

/-- The columns of the partitioning that can be stored. -/
def encodePartitioning (policy : LayoutPolicy) (table : String) :
    List Transform → Except CatalogFault (List String)
  | [] => .ok []
  | .identity column :: rest => return column :: (← encodePartitioning policy table rest)
  | transform :: rest => do
    Provider.hive.leaveOut policy table "partitioning"
      s!"only identity partitions are supported, got `{transform.display}`"
    encodePartitioning policy table rest

/-- The distribution that can be stored. -/
def supportedDistribution (policy : LayoutPolicy) (table : String) :
    Option Distribution → Except CatalogFault (Option Distribution)
  | none => .ok none
  | some distribution =>
    if distribution.strategy ≠ .hash then do
      Provider.hive.leaveOut policy table "distribution"
        s!"only hash bucketing is supported, got {distribution.strategy.display}"
      return none
    else if distribution.number = 0 ∨ distribution.columns = [] then
      .error (.invalidArgument table
        "hash bucketing needs a positive bucket count and at least one column")
    else .ok (some distribution)

/-- The stored entries of a hash distribution. -/
def encodeDistribution : Option Distribution → List (String × PropertyValue)
  | none => []
  | some distribution =>
    [("bucketed_by", .array distribution.columns),
      ("bucket_count", .integer (Int64.ofNat distribution.number.toNat))]

/-- The written form of a sort order; its nulls are not written. -/
def encodeSortKey (order : SortOrder) : String :=
  match order.direction with
  | .ascending => Text.Identifier.quoted order.column
  | .descending => Text.Identifier.quoted order.column ++ " DESC"

def encodeSortKeys (policy : LayoutPolicy) (table : String) :
    List SortOrder → Except CatalogFault (List String)
  | [] => .ok []
  | order :: rest => do
    if !order.hasDefaultNulls then
      Provider.hive.leaveOut policy table "null ordering"
        s!"`{order.column}` can only use {order.direction.defaultNulls.display}"
    return encodeSortKey order :: (← encodeSortKeys policy table rest)

/-- The sort keys that can be stored beside a distribution. -/
def encodeSorting (policy : LayoutPolicy) (table : String)
    (distribution : Option Distribution) (orders : List SortOrder) :
    Except CatalogFault (List String) :=
  if orders.isEmpty then .ok []
  else if distribution.isNone then do
    Provider.hive.leaveOut policy table "sort order" "sorting requires hash bucketing"
    return []
  else encodeSortKeys policy table orders

/-- The stored form of a layout. -/
def encode (policy : LayoutPolicy) (table : String) (layout : Layout) :
    Except CatalogFault EngineProperties := do
  let partitions ← encodePartitioning policy table layout.partitioning
  let distribution ← supportedDistribution policy table layout.distribution
  let keys ← encodeSorting policy table distribution layout.sortOrders
  return Dictionary.ofList (Provider.storedArray "partitioned_by" partitions ++
    encodeDistribution distribution ++ Provider.storedArray "sorted_by" keys)

/-- Read a sort key: a column, and possibly a direction in any case after a blank. -/
def sortKeyOf? (key : String) : Option SortOrder := do
  let front ← Text.Identifier.split? key.toList
  guard (front.rest.head?.all Text.isBlank)
  let column := String.ofList front.column
  match (Text.words front.rest).map fun word => String.ofList (word.map Char.toUpper) with
  | [] | ["ASC"] => some (.usual column .ascending)
  | ["DESC"] => some (.usual column .descending)
  | _ => none

def decodeSortKey (key : String) : Except CatalogFault SortOrder :=
  match sortKeyOf? key with
  | some order => .ok order
  | none => .error (.invalidArgument "sorted_by" s!"malformed sort key `{key}`")

/-- The stored number of buckets, if it is one. -/
def bucketCount? (properties : EngineProperties) : Option UInt32 := do
  let count ← (← properties.get? "bucket_count").integer?
  if 0 ≤ count.toInt ∧ count.toInt < UInt32.size then some (.ofNat count.toInt.toNat)
  else none

def decodeDistribution (properties : EngineProperties) (columns : List String) :
    Except CatalogFault (Option Distribution) :=
  if columns.isEmpty then .ok none
  else
    match bucketCount? properties with
    | some number => .ok (some (.byHash number columns))
    | none => .error (.invalidArgument "bucket_count" "bucketed tables need a bucket count")

def decode (properties : EngineProperties) : Except CatalogFault Layout := do
  let partitions ← Provider.readArray properties "partitioned_by"
  let distribution ← decodeDistribution properties
    (← Provider.readArray properties "bucketed_by")
  let orders ← (← Provider.readArray properties "sorted_by").mapM decodeSortKey
  return ⟨partitions.map .identity, orders, distribution⟩

end HiveLayout

end CatalogGateway
