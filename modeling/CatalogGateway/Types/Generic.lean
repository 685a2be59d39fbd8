import CatalogGateway.Fault

/-!
# Generic types

The types in which tables are described to callers, independently of any engine.
Two types are equivalent when they belong to the same class, and when nested types
do so part by part; widths, lengths and nullability do not matter.
-/

namespace CatalogGateway

mutual

/-- A type of a column or of a part of one. -/
inductive DataType where
  | boolean
  /-- A signed integer of one byte. -/
  | byte
  /-- A signed integer of two bytes. -/
  | short
  /-- A signed integer of four bytes. -/
  | integer
  /-- A signed integer of eight bytes. -/
  | long
  | float
  | double
  /-- Numbers of so many digits, `scale` of them after the point. -/
  | decimal (precision scale : UInt8)
  | date
  | time
  | timestamp (withTimeZone : Bool)
  | intervalYear
  | intervalDay
  /-- Text of any length. -/
  | string
  /-- Text of at most so many characters. -/
  | varchar (length : UInt32)
  /-- Text of exactly so many characters. -/
  | fixedChar (length : UInt32)
  /-- Bytes of any number. -/
  | binary
  /-- Exactly so many bytes. -/
  | fixed (length : UInt32)
  | uuid
  | list (element : DataType) (elementNullable : Bool)
  | map (key value : DataType) (valueNullable : Bool)
  | struct (fields : DataFields)
  /-- The type of the null literal. -/
  | null

/-- The named fields of a struct, in order. -/
inductive DataFields where
  | nil
  | cons (name : String) (type : DataType) (nullable : Bool) (comment : Option String)
      (rest : DataFields)

end

deriving instance DecidableEq, Inhabited, Repr for DataType, DataFields

/-- The class of a type, which ignores its parameters and parts. -/
inductive TypeClass where
  | boolean
  | integral
  | floating
  | decimal
  | date
  | time
  | timestamp
  | interval
  | text
  | binary
  | uuid
  | list
  | map
  | struct
  | null
deriving DecidableEq, Inhabited, Repr

/-- The encoded name of a class. -/
def TypeClass.label : TypeClass → String
  | boolean => "Boolean"
  | integral => "Integral"
  | floating => "Floating"
  | decimal => "Decimal"
  | date => "Date"
  | time => "Time"
  | timestamp => "Timestamp"
  | interval => "Interval"
  | text => "Text"
  | binary => "Binary"
  | uuid => "Uuid"
  | list => "List"
  | map => "Map"
  | struct => "Struct"
  | null => "Null"

namespace DataType

/-- The largest number of digits of a decimal. -/
def maxDecimalPrecision : UInt8 := 38

def decimalDisplay (precision scale : UInt8) : String :=
  s!"decimal({precision},{scale})"

def ofDecimal (precision scale : UInt8) : Except TypeFault DataType :=
  if precision = 0 ∨ maxDecimalPrecision < precision then
    .error (.invalidParameter (decimalDisplay precision scale)
      s!"precision must be between 1 and {maxDecimalPrecision}")
  else if precision < scale then
    .error (.invalidParameter (decimalDisplay precision scale)
      "scale must not exceed precision")
  else .ok (.decimal precision scale)

def typeClass : DataType → TypeClass
  | boolean => .boolean
  | byte | short | integer | long => .integral
  | float | double => .floating
  | decimal _ _ => .decimal
  | date => .date
  | time => .time
  | timestamp _ => .timestamp
  | intervalYear | intervalDay => .interval
  | string | varchar _ | fixedChar _ => .text
  | binary | fixed _ => .binary
  | uuid => .uuid
  | list _ _ => .list
  | map _ _ _ => .map
  | struct _ => .struct
  | null => .null

/-- Whether the values are whole numbers. -/
def isIntegral : DataType → Bool
  | byte | short | integer | long => true
  | _ => false

/-- Whether the values are numbers. -/
def isNumeric (type : DataType) : Bool :=
  type.isIntegral || match type with
    | float | double | decimal _ _ => true
    | _ => false

/-- Whether the values are points or spans of time. -/
def isTemporal : DataType → Bool
  | date | time | timestamp _ | intervalYear | intervalDay => true
  | _ => false

def isText : DataType → Bool
  | string | varchar _ | fixedChar _ => true
  | _ => false

/-- Whether the values have parts. -/
def isComplex : DataType → Bool
  | list _ _ | map _ _ _ | struct _ => true
  | _ => false

end DataType

mutual

def DataType.display : DataType → String
  | .boolean => "boolean"
  | .byte => "byte"
  | .short => "short"
  | .integer => "integer"
  | .long => "long"
  | .float => "float"
  | .double => "double"
  | .decimal precision scale => DataType.decimalDisplay precision scale
  | .date => "date"
  | .time => "time"
  | .timestamp withTimeZone => if withTimeZone then "timestamp_tz" else "timestamp"
  | .intervalYear => "interval_year"
  | .intervalDay => "interval_day"
  | .string => "string"
  | .varchar length => s!"varchar({length})"
  | .fixedChar length => s!"char({length})"
  | .binary => "binary"
  | .fixed length => s!"fixed({length})"
  | .uuid => "uuid"
  | .list element _ => s!"list<{element.display}>"
  | .map key value _ => s!"map<{key.display},{value.display}>"
  | .struct fields => "struct<" ++ String.intercalate "," fields.displays ++ ">"
  | .null => "null"

/-- The texts of the fields of a struct. -/
def DataFields.displays : DataFields → List String
  | .nil => []
  | .cons name type _ _ rest => s!"{name}:{type.display}" :: rest.displays

end

mutual

/-- Whether two types agree in class, part by part. -/
def DataType.isEquivalent (left right : DataType) : Bool :=
  match left, right with
  | .list first _, .list second _ => first.isEquivalent second
  | .map firstKey firstValue _, .map secondKey secondValue _ =>
    firstKey.isEquivalent secondKey && firstValue.isEquivalent secondValue
  | .struct first, .struct second => first.areEquivalent second
  | first, second => first.typeClass = second.typeClass

/-- Whether two structs have fields of the same names and equivalent types in the
same order. -/
def DataFields.areEquivalent (left right : DataFields) : Bool :=
  match left, right with
  | .nil, .nil => true
  | .cons firstName firstType _ _ first, .cons secondName secondType _ _ second =>
    firstName = secondName && firstType.isEquivalent secondType && first.areEquivalent second
  | _, _ => false

end

end CatalogGateway
