/-!
# Engine types

The types in which an engine stores columns.  They carry no nullability inside
nested values, and the fields of a row may lack names.
-/

namespace CatalogGateway

mutual

/-- A type of a stored column or of a part of one. -/
inductive EngineType where
  | boolean
  | tinyInt
  | smallInt
  | integer
  | bigInt
  | real
  | double
  | decimal (precision scale : UInt8)
  /-- Text, of any length when none is given. -/
  | varchar (length : Option UInt32)
  | char (length : UInt32)
  | varbinary
  | date
  | time (precision : UInt8)
  | timestamp (precision : UInt8)
  | timestampWithTimeZone (precision : UInt8)
  | uuid
  | array (element : EngineType)
  | map (key value : EngineType)
  | row (fields : RowFields)

/-- The fields of a row, in order. -/
inductive RowFields where
  | nil
  | cons (name : Option String) (type : EngineType) (rest : RowFields)

end

deriving instance DecidableEq, Inhabited, Repr for EngineType, RowFields

mutual

def EngineType.display : EngineType → String
  | .boolean => "boolean"
  | .tinyInt => "tinyint"
  | .smallInt => "smallint"
  | .integer => "integer"
  | .bigInt => "bigint"
  | .real => "real"
  | .double => "double"
  | .decimal precision scale => s!"decimal({precision},{scale})"
  | .varchar none => "varchar"
  | .varchar (some length) => s!"varchar({length})"
  | .char length => s!"char({length})"
  | .varbinary => "varbinary"
  | .date => "date"
  | .time precision => s!"time({precision})"
  | .timestamp precision => s!"timestamp({precision})"
  | .timestampWithTimeZone precision => s!"timestamp({precision}) with time zone"
  | .uuid => "uuid"
  | .array element => s!"array({element.display})"
  | .map key value => s!"map({key.display}, {value.display})"
  | .row fields => "row(" ++ String.intercalate ", " fields.displays ++ ")"

def RowFields.displays : RowFields → List String
  | .nil => []
  | .cons none type rest => type.display :: rest.displays
  | .cons (some name) type rest => s!"{name} {type.display}" :: rest.displays

end

end CatalogGateway
