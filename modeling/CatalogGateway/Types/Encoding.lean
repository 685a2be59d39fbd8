import CatalogGateway.Types.Engine
import CatalogGateway.Types.Generic

/-!
# Encodings of types

A scalar is encoded as its name, a type with parameters as an object with its name
as the only key.  Readers accept what the writers make, and the other written forms
of variants and records that `Json.Decoding` names.
-/

namespace CatalogGateway

mutual

def DataType.toJson : DataType → Json
  | .boolean => .string "Boolean"
  | .byte => .string "Byte"
  | .short => .string "Short"
  | .integer => .string "Integer"
  | .long => .string "Long"
  | .float => .string "Float"
  | .double => .string "Double"
  | .decimal precision scale =>
    .variant "Decimal"
      (.object [("precision", .natural precision.toNat), ("scale", .natural scale.toNat)])
  | .date => .string "Date"
  | .time => .string "Time"
  | .timestamp withTimeZone =>
    .variant "Timestamp" (.object [("with_time_zone", .bool withTimeZone)])
  | .intervalYear => .string "IntervalYear"
  | .intervalDay => .string "IntervalDay"
  | .string => .string "String"
  | .varchar length => .variant "Varchar" (.natural length.toNat)
  | .fixedChar length => .variant "FixedChar" (.natural length.toNat)
  | .binary => .string "Binary"
  | .fixed length => .variant "Fixed" (.natural length.toNat)
  | .uuid => .string "Uuid"
  | .list element elementNullable =>
    .variant "List"
      (.object [("element", element.toJson), ("element_nullable", .bool elementNullable)])
  | .map key value valueNullable =>
    .variant "Map"
      (.object [("key", key.toJson), ("value", value.toJson),
        ("value_nullable", .bool valueNullable)])
  | .struct fields => .variant "Struct" (.array fields.toJsons)
  | .null => .string "Null"

/-- The encodings of the fields of a struct. -/
def DataFields.toJsons : DataFields → List Json
  | .nil => []
  | .cons name type nullable comment rest =>
    .object [("name", .string name), ("ty", type.toJson), ("nullable", .bool nullable),
      ("comment", .optionalString comment)] :: rest.toJsons

end

namespace DataType

/-- The generic types without parameters, by name. -/
def scalars : List (String × DataType) :=
  [("Boolean", boolean), ("Byte", byte), ("Short", short), ("Integer", integer),
    ("Long", long), ("Float", float), ("Double", double), ("Date", date), ("Time", time),
    ("IntervalYear", intervalYear), ("IntervalDay", intervalDay), ("String", string),
    ("Binary", binary), ("Uuid", uuid), ("Null", null)]

/-- Read a generic type whose parameters are not types themselves. -/
def scalarOfJson? (value : Json) : Option DataType :=
  match value with
  | .object [("Decimal", data)] => do
    let [precision, scale] ← data.namedFields? ["precision", "scale"] | none
    return .decimal (← precision.uint8?) (← scale.uint8?)
  | .object [("Timestamp", data)] => do
    let [withTimeZone] ← data.namedFields? ["with_time_zone"] | none
    return .timestamp (← withTimeZone.bool?)
  | .object [("Varchar", length)] => length.uint32?.map .varchar
  | .object [("FixedChar", length)] => length.uint32?.map .fixedChar
  | .object [("Fixed", length)] => length.uint32?.map .fixed
  | _ => Json.choice? scalars value

mutual

def ofJson? : Json → Option DataType
  | .object [("List", .object members)] => do
    return .list (← memberOfJson? "element" members)
      (← (Json.member "element_nullable" members).bool?)
  | .object [("Map", .object members)] => do
    return .map (← memberOfJson? "key" members) (← memberOfJson? "value" members)
      (← (Json.member "value_nullable" members).bool?)
  | .object [("Struct", .array fields)] => (fieldsOfJson? fields).map .struct
  | value => scalarOfJson? value

/-- Read the generic type under a name of an object. -/
def memberOfJson? (name : String) : List (String × Json) → Option DataType
  | [] => none
  | (present, value) :: rest => if name = present then ofJson? value else memberOfJson? name rest

def fieldsOfJson? : List Json → Option DataFields
  | [] => some .nil
  | .object members :: rest => do
    return .cons (← (Json.member "name" members).string?) (← memberOfJson? "ty" members)
      (← (Json.member "nullable" members).bool?)
      (← (Json.member "comment" members).optionalString?) (← fieldsOfJson? rest)
  | .array [name, type, nullable, comment] :: rest => do
    return .cons (← name.string?) (← ofJson? type) (← nullable.bool?)
      (← comment.optionalString?) (← fieldsOfJson? rest)
  | _ => none

end

end DataType

mutual

def EngineType.toJson : EngineType → Json
  | .boolean => .string "Boolean"
  | .tinyInt => .string "TinyInt"
  | .smallInt => .string "SmallInt"
  | .integer => .string "Integer"
  | .bigInt => .string "BigInt"
  | .real => .string "Real"
  | .double => .string "Double"
  | .decimal precision scale =>
    .variant "Decimal"
      (.object [("precision", .natural precision.toNat), ("scale", .natural scale.toNat)])
  | .varchar length =>
    .variant "Varchar" (.optional (fun bound : UInt32 => .natural bound.toNat) length)
  | .char length => .variant "Char" (.natural length.toNat)
  | .varbinary => .string "Varbinary"
  | .date => .string "Date"
  | .time precision => .variant "Time" (.object [("precision", .natural precision.toNat)])
  | .timestamp precision =>
    .variant "Timestamp" (.object [("precision", .natural precision.toNat)])
  | .timestampWithTimeZone precision =>
    .variant "TimestampWithTimeZone" (.object [("precision", .natural precision.toNat)])
  | .uuid => .string "Uuid"
  | .array element => .variant "Array" element.toJson
  | .map key value => .variant "Map" (.array [key.toJson, value.toJson])
  | .row fields => .variant "Row" (.array fields.toJsons)

def RowFields.toJsons : RowFields → List Json
  | .nil => []
  | .cons name type rest =>
    .object [("name", .optionalString name), ("ty", type.toJson)] :: rest.toJsons

end

namespace EngineType

/-- The engine types without parameters, by name. -/
def scalars : List (String × EngineType) :=
  [("Boolean", boolean), ("TinyInt", tinyInt), ("SmallInt", smallInt), ("Integer", integer),
    ("BigInt", bigInt), ("Real", real), ("Double", double), ("Varbinary", varbinary),
    ("Date", date), ("Uuid", uuid)]

def precisionOfJson? (data : Json) : Option UInt8 := do
  let [precision] ← data.namedFields? ["precision"] | none
  precision.uint8?

def scalarOfJson? (value : Json) : Option EngineType :=
  match value with
  | .object [("Decimal", data)] => do
    let [precision, scale] ← data.namedFields? ["precision", "scale"] | none
    return .decimal (← precision.uint8?) (← scale.uint8?)
  | .object [("Varchar", length)] => (length.optional? Json.uint32?).map .varchar
  | .object [("Char", length)] => length.uint32?.map .char
  | .object [("Time", data)] => (precisionOfJson? data).map .time
  | .object [("Timestamp", data)] => (precisionOfJson? data).map .timestamp
  | .object [("TimestampWithTimeZone", data)] =>
    (precisionOfJson? data).map .timestampWithTimeZone
  | _ => Json.choice? scalars value

mutual

def ofJson? : Json → Option EngineType
  | .object [("Array", element)] => (ofJson? element).map .array
  | .object [("Map", .array [key, value])] => do
    return .map (← ofJson? key) (← ofJson? value)
  | .object [("Row", .array fields)] => (fieldsOfJson? fields).map .row
  | value => scalarOfJson? value

def memberOfJson? (name : String) : List (String × Json) → Option EngineType
  | [] => none
  | (present, value) :: rest => if name = present then ofJson? value else memberOfJson? name rest

def fieldsOfJson? : List Json → Option RowFields
  | [] => some .nil
  | .object members :: rest => do
    return .cons (← (Json.member "name" members).optionalString?)
      (← memberOfJson? "ty" members) (← fieldsOfJson? rest)
  | .array [name, type] :: rest => do
    return .cons (← name.optionalString?) (← ofJson? type) (← fieldsOfJson? rest)
  | _ => none

end

end EngineType

end CatalogGateway
