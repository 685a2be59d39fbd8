import CatalogGateway.Json.Decoding

/-!
# Engine properties

The typed properties that an engine stores beside a schema or a table.
-/

namespace CatalogGateway

/-- The value of a stored property. -/
inductive PropertyValue where
  | string (text : String)
  | integer (value : Int64)
  | boolean (value : Bool)
  | array (items : List String)
deriving DecidableEq, Inhabited, Repr

/-- Stored properties by key. -/
abbrev EngineProperties := Dictionary PropertyValue

/-- Properties as callers write them. -/
abbrev Properties := Dictionary String

namespace PropertyValue

def display : PropertyValue → String
  | string text => text
  | integer value => toString value.toInt
  | boolean value => if value then "true" else "false"
  | array items => "[" ++ String.intercalate ", " items ++ "]"

def string? : PropertyValue → Option String
  | string text => some text
  | _ => none

def integer? : PropertyValue → Option Int64
  | integer value => some value
  | _ => none

def array? : PropertyValue → Option (List String)
  | array items => some items
  | _ => none

def toJson : PropertyValue → Json
  | string text => .variant "String" (.string text)
  | integer value => .variant "Integer" (.integer value.toInt)
  | boolean value => .variant "Boolean" (.bool value)
  | array items => .variant "Array" (.strings items)

def ofJson? : Json → Option PropertyValue
  | .object [("String", data)] => data.string?.map string
  | .object [("Integer", data)] => data.int64?.map integer
  | .object [("Boolean", data)] => data.bool?.map boolean
  | .object [("Array", data)] => data.strings?.map array
  | _ => none

end PropertyValue

namespace EngineProperties

def toJson (properties : EngineProperties) : Json :=
  .dictionary PropertyValue.toJson properties

/-- Read stored properties. -/
def ofJson? : Json → Option EngineProperties :=
  Json.dictionary? PropertyValue.ofJson?

end EngineProperties

namespace Properties

def toJson (properties : Properties) : Json :=
  .dictionary .string properties

def ofJson? : Json → Option Properties :=
  Json.dictionary? Json.string?

end Properties

end CatalogGateway
