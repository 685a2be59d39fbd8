import CatalogGateway.Engine.Property
import CatalogGateway.Fault
import CatalogGateway.Text.Blank
import CatalogGateway.Text.Numeral

/-!
# Conversion of properties

Callers write properties as texts; an engine stores them typed and partly under
other keys.  A converter holds the entries it knows by name, and the engine keys
that are reserved for the layout of a table or the comment of a schema: those are
neither accepted from callers nor shown to them.
-/

namespace CatalogGateway

/-- The type of a known property. -/
inductive PropertyKind where
  | string
  | integer
  | boolean
deriving DecidableEq, Inhabited, Repr

/-- A property that a converter knows. -/
structure PropertyEntry where
  /-- The key callers use. -/
  genericKey : String
  engineKey : String
  kind : PropertyKind
  /-- The value stored when the caller gives none. -/
  default : Option String := none
  /-- Whether callers are spared the value while it is the default. -/
  hidden : Bool := false
deriving DecidableEq, Inhabited, Repr

/-- The rules for the properties of one kind of object. -/
structure PropertyConverter where
  entries : List PropertyEntry := []
  /-- The engine keys that are not properties. -/
  reserved : List String := []
deriving DecidableEq, Inhabited, Repr

namespace PropertyKind

/-- The encoded name of a kind. -/
def label : PropertyKind → String
  | string => "string"
  | integer => "integer"
  | boolean => "boolean"

def named : List (String × PropertyKind) :=
  [string, integer, boolean].map fun kind => (kind.label, kind)

/-- The value that a text stands for, if it is of the kind.  Blanks around numbers
and truth values do not matter, nor does the case of a truth value. -/
def read? (kind : PropertyKind) (text : String) : Option PropertyValue :=
  match kind with
  | string => some (.string text)
  | integer => (Text.int64? (Text.trim text.toList)).map .integer
  | boolean =>
    let word := (Text.trim text.toList).map Char.toLower
    if word = "true".toList then some (.boolean true)
    else if word = "false".toList then some (.boolean false)
    else none

/-- What a text of the kind looks like. -/
def expectation : PropertyKind → String
  | string => "a string"
  | integer => "an integer"
  | boolean => "true or false"

end PropertyKind

namespace PropertyEntry

def parse (entry : PropertyEntry) (text : String) : Except CatalogFault PropertyValue :=
  match entry.kind.read? text with
  | some value => .ok value
  | none => .error (.invalidArgument entry.genericKey
      s!"expected {entry.kind.expectation} but got `{text}`")

/-- Whether callers are spared a value. -/
def conceals (entry : PropertyEntry) (text : String) : Bool :=
  entry.hidden && entry.default = some text

end PropertyEntry

namespace PropertyConverter

def isReserved (converter : PropertyConverter) (key : String) : Bool :=
  converter.reserved.contains key

/-- The entry that callers know under a key. -/
def byGeneric? (converter : PropertyConverter) (key : String) : Option PropertyEntry :=
  converter.entries.find? (·.genericKey = key)

def byEngine? (converter : PropertyConverter) (key : String) : Option PropertyEntry :=
  converter.entries.find? (·.engineKey = key)

/-- The key under which a property is stored, which is its own unless it is known
under another. -/
def storedKey (converter : PropertyConverter) (key : String) : String :=
  (converter.byGeneric? key).elim key PropertyEntry.engineKey

/-- The key under which a caller's property is stored; reserved ones are refused. -/
def engineKey (converter : PropertyConverter) (key : String) : Except CatalogFault String :=
  if converter.isReserved (converter.storedKey key) then
    .error (.invalidArgument key
      "the property is derived from the table layout and cannot be set directly")
  else .ok (converter.storedKey key)

def storedValue (converter : PropertyConverter) (key text : String) :
    Except CatalogFault PropertyValue :=
  match converter.byGeneric? key with
  | some entry => entry.parse text
  | none => .ok (.string text)

def toEngineEntry (converter : PropertyConverter) (key text : String) :
    Except CatalogFault (String × PropertyValue) := do
  let stored ← converter.engineKey key
  return (stored, ← converter.storedValue key text)

def addDefault (stored : EngineProperties) (entry : PropertyEntry) :
    Except CatalogFault EngineProperties :=
  match entry.default with
  | none => .ok stored
  | some text =>
    if stored.contains entry.engineKey then .ok stored
    else (entry.parse text).map (stored.insert entry.engineKey)

/-- All properties of a caller as they are stored, with the defaults of the known
ones that are not given. -/
def toEngine (converter : PropertyConverter) (properties : Properties) :
    Except CatalogFault EngineProperties := do
  let stored ← properties.entries.mapM fun (key, text) => converter.toEngineEntry key text
  converter.entries.foldlM addDefault (Dictionary.ofList stored)

/-- What a caller sees of a stored property, if anything. -/
def shown? (converter : PropertyConverter) (key : String) (value : PropertyValue) :
    Option (String × String) :=
  if converter.isReserved key then none
  else
    match converter.byEngine? key with
    | none => some (key, value.display)
    | some entry =>
      if entry.conceals value.display then none else some (entry.genericKey, value.display)

def toGeneric (converter : PropertyConverter) (stored : EngineProperties) : Properties :=
  Dictionary.ofList (stored.entries.filterMap fun (key, value) => converter.shown? key value)

end PropertyConverter

end CatalogGateway
