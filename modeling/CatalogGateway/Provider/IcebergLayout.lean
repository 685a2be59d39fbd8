import CatalogGateway.Provider.Basic
import CatalogGateway.Text.Identifier

/-!
# Layouts in an iceberg catalog

A partition is written as a column or as a transform of one, such as `day(ts)` or
`bucket(id, 16)`; a sort key as a column followed by its direction and the place of
its nulls where they are not the usual ones.  Columns that are no plain words are
quoted.  Distributions are not stored.
-/

namespace CatalogGateway

namespace IcebergLayout

/-- The written form of a transform, unless it reads more or fewer columns than
one. -/
def encodeTransform? : Transform → Option String
  | .identity column => some (Text.Identifier.quoted column)
  | .bucket buckets [column] => some s!"bucket({Text.Identifier.quoted column}, {buckets})"
  | .bucket _ _ => none
  | .truncate width column => some s!"truncate({Text.Identifier.quoted column}, {width})"
  | .year column => some s!"year({Text.Identifier.quoted column})"
  | .month column => some s!"month({Text.Identifier.quoted column})"
  | .day column => some s!"day({Text.Identifier.quoted column})"
  | .hour column => some s!"hour({Text.Identifier.quoted column})"

/-- The written transforms of the partitioning that can be stored. -/
def encodePartitioning (policy : LayoutPolicy) (table : String) :
    List Transform → Except CatalogFault (List String)
  | [] => .ok []
  | transform :: rest =>
    match encodeTransform? transform with
    | some written => return written :: (← encodePartitioning policy table rest)
    | none => do
      Provider.iceberg.leaveOut policy table "partitioning"
        s!"`{transform.display}` must bucket a single column"
      encodePartitioning policy table rest

def encodeSortKey (order : SortOrder) : String :=
  let direction := match order.direction with
    | .ascending => ""
    | .descending => " DESC"
  let nulls := if order.hasDefaultNulls then "" else " " ++ order.nulls.display
  Text.Identifier.quoted order.column ++ direction ++ nulls

/-- Leave out a distribution, or refuse it, as the policy says. -/
def dropDistribution (policy : LayoutPolicy) (table : String) :
    Option Distribution → Except CatalogFault Unit
  | none => .ok ()
  | some distribution => Provider.iceberg.leaveOut policy table "distribution"
      s!"{distribution.strategy.display} distribution is managed by the table format"

/-- The stored form of a layout. -/
def encode (policy : LayoutPolicy) (table : String) (layout : Layout) :
    Except CatalogFault EngineProperties := do
  let partitions ← encodePartitioning policy table layout.partitioning
  dropDistribution policy table layout.distribution
  return Dictionary.ofList (Provider.storedArray "partitioning" partitions ++
    Provider.storedArray "sorted_by" (layout.sortOrders.map encodeSortKey))

/-- The arguments of a transform: a column, and possibly a number after a comma. -/
def argumentsOf? (text : List Char) : Option (String × Option UInt32) := do
  let front ← Text.Identifier.split? text
  let column := String.ofList front.column
  match Text.trim front.rest with
  | [] => some (column, none)
  | ',' :: number => do
    let value ← Text.uint32? (Text.trim number)
    some (column, some value)
  | _ => none

/-- The text between a pair of parentheses that encloses all of it. -/
def enclosed? : List Char → Option (List Char)
  | '(' :: inner => if inner.getLast? = some ')' then some inner.dropLast else none
  | _ => none

def transformNamed? (name : List Char) (column : String) (number : Option UInt32) :
    Option Transform :=
  match String.ofList (name.map Char.toLower), number with
  | "year", none => some (.year column)
  | "month", none => some (.month column)
  | "day", none => some (.day column)
  | "hour", none => some (.hour column)
  | "bucket", some buckets => some (.bucket buckets [column])
  | "truncate", some width => some (.truncate width column)
  | _, _ => none

def transformOf? (text : String) : Option Transform := do
  let front ← Text.Identifier.split? text.toList
  match Text.trim front.rest with
  | [] => some (.identity (String.ofList front.column))
  | rest => do
    guard !front.quoted
    let (column, number) ← argumentsOf? (← enclosed? rest)
    transformNamed? front.column column number

def decodeTransform (entry : String) : Except CatalogFault Transform :=
  match transformOf? entry with
  | some transform => .ok transform
  | none => .error (.invalidArgument "partitioning" s!"malformed entry `{entry}`")

/-- The direction at the front of a list of words, and the words after it. -/
def splitDirection : List String → SortDirection × List String
  | "DESC" :: rest => (.descending, rest)
  | "ASC" :: rest => (.ascending, rest)
  | words => (.ascending, words)

/-- Read a sort key: a column, and possibly its direction and the place of its nulls,
in any case and after blanks. -/
def sortKeyOf? (key : String) : Option SortOrder := do
  let front ← Text.Identifier.split? key.toList
  guard (front.rest.head?.all Text.isBlank)
  let column := String.ofList front.column
  let (direction, rest) := splitDirection
    ((Text.words front.rest).map fun word => String.ofList (word.map Char.toUpper))
  match rest with
  | [] => some (.usual column direction)
  | ["NULLS", "FIRST"] => some ⟨column, direction, .nullsFirst⟩
  | ["NULLS", "LAST"] => some ⟨column, direction, .nullsLast⟩
  | _ => none

def decodeSortKey (key : String) : Except CatalogFault SortOrder :=
  match sortKeyOf? key with
  | some order => .ok order
  | none => .error (.invalidArgument "sorted_by" s!"malformed entry `{key}`")

def decode (properties : EngineProperties) : Except CatalogFault Layout := do
  let partitions ← (← Provider.readArray properties "partitioning").mapM decodeTransform
  let orders ← (← Provider.readArray properties "sorted_by").mapM decodeSortKey
  return ⟨partitions, orders, none⟩

end IcebergLayout

end CatalogGateway
