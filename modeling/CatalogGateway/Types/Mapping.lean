import CatalogGateway.Types.Engine
import CatalogGateway.Types.Generic

/-!
# Type mappings

A mapping carries generic types into engine types and back.  All mappings share
the same table of scalars; each refuses the scalars that its kind of storage cannot
hold, at every depth of a nested type.
-/

namespace CatalogGateway

/-- A family of storage with its own restrictions on types. -/
inductive TypeMapping where
  /-- Storage without restrictions. -/
  | general
  | hive
  | iceberg
deriving DecidableEq, Inhabited, Repr

/-- Whether a mapping takes a scalar, and if not, possibly why. -/
inductive Verdict where
  | accepted
  | refused (reason : Option String)
deriving DecidableEq, Inhabited, Repr

namespace TypeMapping

def name : TypeMapping → String
  | general => "general"
  | hive => "hive"
  | iceberg => "iceberg"

def ofName? : String → Option TypeMapping
  | "general" => some general
  | "hive" => some hive
  | "iceberg" => some iceberg
  | _ => none

/-- The precision given to times and timestamps: milliseconds, or microseconds. -/
def temporalPrecision : TypeMapping → UInt8
  | general | hive => 3
  | iceberg => 6

/-- The longest bounded text that the hive mapping takes. -/
def maxVarcharLength : UInt32 := 65535

/-- The longest text of fixed length that the hive mapping takes. -/
def maxCharLength : UInt32 := 255

def lengthVerdict (kind : String) (maximum length : UInt32) : Verdict :=
  if 1 ≤ length ∧ length ≤ maximum then .accepted
  else .refused (some s!"{kind} length must be between 1 and {maximum}")

/-- The restrictions of a mapping on generic scalars. -/
def verdict : TypeMapping → DataType → Verdict
  | hive, .time | hive, .timestamp true | hive, .uuid | hive, .fixed _ => .refused none
  | hive, .varchar length => lengthVerdict "varchar" maxVarcharLength length
  | hive, .fixedChar length => lengthVerdict "char" maxCharLength length
  | iceberg, .byte | iceberg, .short | iceberg, .varchar _ | iceberg, .fixedChar _ =>
    .refused none
  | _, _ => .accepted

def engineVerdict : TypeMapping → EngineType → Verdict
  | hive, .time _ | hive, .timestampWithTimeZone _ | hive, .uuid => .refused none
  | hive, .varchar (some length) => lengthVerdict "varchar" maxVarcharLength length
  | hive, .char length => lengthVerdict "char" maxCharLength length
  | iceberg, .tinyInt | iceberg, .smallInt | iceberg, .varchar (some _) | iceberg, .char _ =>
    .refused none
  | _, _ => .accepted

/-- The engine type of a scalar, with the given precision for times.  Nested types
and the scalars that no engine holds have none. -/
def scalarToEngine? (precision : UInt8) : DataType → Option EngineType
  | .boolean => some .boolean
  | .byte => some .tinyInt
  | .short => some .smallInt
  | .integer => some .integer
  | .long => some .bigInt
  | .float => some .real
  | .double => some .double
  | .decimal digits scale => some (.decimal digits scale)
  | .date => some .date
  | .time => some (.time precision)
  | .timestamp false => some (.timestamp precision)
  | .timestamp true => some (.timestampWithTimeZone precision)
  | .string => some (.varchar none)
  | .varchar length => some (.varchar (some length))
  | .fixedChar length => some (.char length)
  | .binary | .fixed _ => some .varbinary
  | .uuid => some .uuid
  | .intervalYear | .intervalDay | .null | .list _ _ | .map _ _ _ | .struct _ => none

/-- The generic type of an engine scalar.  Nested types have none. -/
def scalarToGeneric? : EngineType → Option DataType
  | .boolean => some .boolean
  | .tinyInt => some .byte
  | .smallInt => some .short
  | .integer => some .integer
  | .bigInt => some .long
  | .real => some .float
  | .double => some .double
  | .decimal precision scale => some (.decimal precision scale)
  | .date => some .date
  | .time _ => some .time
  | .timestamp _ => some (.timestamp false)
  | .timestampWithTimeZone _ => some (.timestamp true)
  | .varchar none => some .string
  | .varchar (some length) => some (.varchar length)
  | .char length => some (.fixedChar length)
  | .varbinary => some .binary
  | .uuid => some .uuid
  | .array _ | .map _ _ | .row _ => none

def unsupported (mapping : TypeMapping) (type : DataType) (reason : Option String) :
    TypeFault :=
  .unsupportedType type.display mapping.name reason

def unsupportedEngine (mapping : TypeMapping) (type : EngineType) (reason : Option String) :
    TypeFault :=
  .unsupportedEngineType type.display mapping.name reason

def scalarToEngine (mapping : TypeMapping) (type : DataType) : Except TypeFault EngineType :=
  match mapping.verdict type with
  | .refused reason => .error (mapping.unsupported type reason)
  | .accepted =>
    match scalarToEngine? mapping.temporalPrecision type with
    | some engine => .ok engine
    | none => .error (mapping.unsupported type none)

def scalarToGeneric (mapping : TypeMapping) (type : EngineType) : Except TypeFault DataType :=
  match mapping.engineVerdict type with
  | .refused reason => .error (mapping.unsupportedEngine type reason)
  | .accepted =>
    match scalarToGeneric? type with
    | some generic => .ok generic
    | none => .error (mapping.unsupportedEngine type none)

mutual

/-- The engine type of a generic type, built part by part from the left. -/
def toEngine (mapping : TypeMapping) : DataType → Except TypeFault EngineType
  | .list element _ => return .array (← mapping.toEngine element)
  | .map key value _ => return .map (← mapping.toEngine key) (← mapping.toEngine value)
  | .struct fields => return .row (← mapping.toRowFields fields)
  | type => mapping.scalarToEngine type

def toRowFields (mapping : TypeMapping) : DataFields → Except TypeFault RowFields
  | .nil => .ok .nil
  | .cons name type _ _ rest =>
    return .cons (some name) (← mapping.toEngine type) (← mapping.toRowFields rest)

end

def unnamedField : String :=
  "row fields must be named to map to struct fields"

mutual

/-- The generic type of an engine type, built part by part from the left.  Every part
comes back nullable. -/
def toGeneric (mapping : TypeMapping) : EngineType → Except TypeFault DataType
  | .array element => return .list (← mapping.toGeneric element) true
  | .map key value => return .map (← mapping.toGeneric key) (← mapping.toGeneric value) true
  | .row fields => return .struct (← mapping.toDataFields (.row fields) fields)
  | type => mapping.scalarToGeneric type

def toDataFields (mapping : TypeMapping) (row : EngineType) :
    RowFields → Except TypeFault DataFields
  | .nil => .ok .nil
  | .cons none _ _ => .error (mapping.unsupportedEngine row (some unnamedField))
  | .cons (some name) type rest =>
    return .cons name (← mapping.toGeneric type) true none (← mapping.toDataFields row rest)

end

end TypeMapping

end CatalogGateway
