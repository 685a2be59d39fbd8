import CatalogGateway.Json.Decoding

/-!
# Layouts of tables

How the rows of a table are partitioned, sorted and distributed.
-/

namespace CatalogGateway

/-- What rows are partitioned by. -/
inductive Transform where
  | identity (column : String)
  | year (column : String)
  | month (column : String)
  | day (column : String)
  | hour (column : String)
  /-- A hash of some columns, into so many buckets. -/
  | bucket (buckets : UInt32) (columns : List String)
  | truncate (width : UInt32) (column : String)
deriving DecidableEq, Inhabited, Repr

/-- The direction of a sort order. -/
inductive SortDirection where
  | ascending
  | descending
deriving DecidableEq, Inhabited, Repr

/-- Where a sort order puts nulls. -/
inductive NullOrdering where
  | nullsFirst
  | nullsLast
deriving DecidableEq, Inhabited, Repr

/-- A column that rows are sorted by. -/
structure SortOrder where
  column : String
  direction : SortDirection
  nulls : NullOrdering
deriving DecidableEq, Inhabited, Repr

/-- How rows are spread. -/
inductive Strategy where
  | hash
  | range
  | even
deriving DecidableEq, Inhabited, Repr

/-- The spread of rows over a number of parts. -/
structure Distribution where
  strategy : Strategy
  number : UInt32
  columns : List String
deriving DecidableEq, Inhabited, Repr

/-- The layout of a table. -/
structure Layout where
  partitioning : List Transform := []
  sortOrders : List SortOrder := []
  distribution : Option Distribution := none
deriving DecidableEq, Inhabited, Repr

namespace Transform

def name : Transform → String
  | identity _ => "identity"
  | year _ => "year"
  | month _ => "month"
  | day _ => "day"
  | hour _ => "hour"
  | bucket _ _ => "bucket"
  | truncate _ _ => "truncate"

def columns : Transform → List String
  | identity column | year column | month column | day column | hour column
  | truncate _ column => [column]
  | bucket _ columns => columns

def display (transform : Transform) : String :=
  match transform with
  | bucket buckets columns => s!"bucket({buckets}, " ++ String.intercalate ", " columns ++ ")"
  | truncate width column => s!"truncate({width}, {column})"
  | identity column | year column | month column | day column | hour column =>
    s!"{transform.name}({column})"

def toJson : Transform → Json
  | identity column => .variant "Identity" (.string column)
  | year column => .variant "Year" (.string column)
  | month column => .variant "Month" (.string column)
  | day column => .variant "Day" (.string column)
  | hour column => .variant "Hour" (.string column)
  | bucket buckets columns =>
    .variant "Bucket"
      (.object [("num_buckets", .natural buckets.toNat), ("columns", .strings columns)])
  | truncate width column =>
    .variant "Truncate" (.object [("width", .natural width.toNat), ("column", .string column)])

def ofJson? : Json → Option Transform
  | .object [("Identity", data)] => data.string?.map identity
  | .object [("Year", data)] => data.string?.map year
  | .object [("Month", data)] => data.string?.map month
  | .object [("Day", data)] => data.string?.map day
  | .object [("Hour", data)] => data.string?.map hour
  | .object [("Bucket", data)] => do
    let [buckets, columns] ← data.namedFields? ["num_buckets", "columns"] | none
    return .bucket (← buckets.uint32?) (← columns.strings?)
  | .object [("Truncate", data)] => do
    let [width, column] ← data.namedFields? ["width", "column"] | none
    return .truncate (← width.uint32?) (← column.string?)
  | _ => none

end Transform

namespace SortDirection

/-- Where nulls go unless stated otherwise: they count as the smallest value. -/
def defaultNulls : SortDirection → NullOrdering
  | ascending => .nullsFirst
  | descending => .nullsLast

def display : SortDirection → String
  | ascending => "ASC"
  | descending => "DESC"

def toJson : SortDirection → Json
  | ascending => .string "Ascending"
  | descending => .string "Descending"

def ofJson? : Json → Option SortDirection :=
  Json.choice? [("Ascending", ascending), ("Descending", descending)]

end SortDirection

namespace NullOrdering

def display : NullOrdering → String
  | nullsFirst => "NULLS FIRST"
  | nullsLast => "NULLS LAST"

def toJson : NullOrdering → Json
  | nullsFirst => .string "NullsFirst"
  | nullsLast => .string "NullsLast"

def ofJson? : Json → Option NullOrdering :=
  Json.choice? [("NullsFirst", nullsFirst), ("NullsLast", nullsLast)]

end NullOrdering

namespace SortOrder

def usual (column : String) (direction : SortDirection) : SortOrder :=
  ⟨column, direction, direction.defaultNulls⟩

/-- Whether the nulls are in their usual place. -/
def hasDefaultNulls (order : SortOrder) : Bool :=
  order.nulls = order.direction.defaultNulls

def toJson (order : SortOrder) : Json :=
  .object [("column", .string order.column), ("direction", order.direction.toJson),
    ("null_ordering", order.nulls.toJson)]

def ofJson? (value : Json) : Option SortOrder := do
  let [column, direction, nulls] ←
    value.fields? ["column", "direction", "null_ordering"] | none
  return ⟨← column.string?, ← SortDirection.ofJson? direction, ← NullOrdering.ofJson? nulls⟩

end SortOrder

namespace Strategy

def display : Strategy → String
  | hash => "hash"
  | range => "range"
  | even => "even"

def toJson : Strategy → Json
  | hash => .string "Hash"
  | range => .string "Range"
  | even => .string "Even"

def ofJson? : Json → Option Strategy :=
  Json.choice? [("Hash", hash), ("Range", range), ("Even", even)]

end Strategy

namespace Distribution

def byHash (number : UInt32) (columns : List String) : Distribution :=
  ⟨.hash, number, columns⟩

def toJson (distribution : Distribution) : Json :=
  .object [("strategy", distribution.strategy.toJson),
    ("number", .natural distribution.number.toNat),
    ("columns", .strings distribution.columns)]

def ofJson? (value : Json) : Option Distribution := do
  let [strategy, number, columns] ←
    value.fields? ["strategy", "number", "columns"] | none
  return ⟨← Strategy.ofJson? strategy, ← number.uint32?, ← columns.strings?⟩

end Distribution

namespace Layout

/-- Whether a layout asks for anything. -/
def isPresent (layout : Layout) : Bool :=
  !layout.partitioning.isEmpty || !layout.sortOrders.isEmpty || layout.distribution.isSome

/-- The columns that a layout refers to, in the order of its parts. -/
def columns (layout : Layout) : List String :=
  layout.partitioning.flatMap Transform.columns ++
    layout.sortOrders.map SortOrder.column ++
    layout.distribution.elim [] Distribution.columns

theorem mem_columns_iff {layout : Layout} {column : String} : column ∈ layout.columns ↔
    (∃ transform ∈ layout.partitioning, column ∈ transform.columns) ∨
      (∃ order ∈ layout.sortOrders, order.column = column) ∨
        ∃ distribution, layout.distribution = some distribution ∧
          column ∈ distribution.columns := by
  rw [columns, List.mem_append, List.mem_append, List.mem_flatMap, List.mem_map, or_assoc]
  cases layout.distribution <;> simp

/-- The columns that a layout refers to, in ascending order and each once. -/
def columnSet (layout : Layout) : List String :=
  (Dictionary.ofList (layout.columns.map fun column => (column, ()))).keys

end Layout

end CatalogGateway
