import CatalogGateway.Dictionary
import CatalogGateway.Json

/-!
# Reading JSON values

Readers of the parts that encodings are made of.  A reader has a result only for
values of its form; in a record a field that is missing reads as `null`, fields
of other names are passed over, and the list of all fields in order is accepted
in place of the object.  The named fields of a variant have to stand in an object.
-/

namespace CatalogGateway

namespace Json

variable {α β : Type}

def string? : Json → Option String
  | .string text => some text
  | _ => none

/-- The value of a truth value. -/
def bool? : Json → Option Bool
  | .bool value => some value
  | _ => none

def integer? : Json → Option Int
  | .number amount 0 => some amount
  | _ => none

/-- The value of an integer from zero up to a bound, which is excluded. -/
def naturalBelow? (bound : Nat) (value : Json) : Option Nat :=
  match value.integer? with
  | some (.ofNat amount) => if amount < bound then some amount else none
  | _ => none

/-- The value of an integer that fits an unsigned 8-bit word. -/
def uint8? (value : Json) : Option UInt8 :=
  (value.naturalBelow? UInt8.size).map UInt8.ofNat

/-- The value of an integer that fits an unsigned 32-bit word. -/
def uint32? (value : Json) : Option UInt32 :=
  (value.naturalBelow? UInt32.size).map UInt32.ofNat

/-- The value of an integer that fits an unsigned 64-bit word. -/
def uint64? (value : Json) : Option UInt64 :=
  (value.naturalBelow? UInt64.size).map UInt64.ofNat

/-- The value of an integer that fits a signed 64-bit word. -/
def int64? (value : Json) : Option Int64 :=
  match value.integer? with
  | some amount =>
    if Int64.minValue.toInt ≤ amount ∧ amount ≤ Int64.maxValue.toInt then
      some (Int64.ofInt amount)
    else none
  | none => none

/-- Read an optional part: `null` stands for a missing one. -/
def optional? (decode : Json → Option α) : Json → Option (Option α)
  | .null => some none
  | value => (decode value).map some

def optionalString? : Json → Option (Option String) :=
  optional? string?

def list? (decode : Json → Option α) : Json → Option (List α)
  | .array items => items.mapM decode
  | _ => none

def strings? : Json → Option (List String) :=
  list? string?

def pair? (first : Json → Option α) (second : Json → Option β) :
    Json → Option (α × β)
  | .array [left, right] => do return (← first left, ← second right)
  | _ => none

/-- The member of an object with a given name, `null` when there is none. -/
def member (name : String) (members : List (String × Json)) : Json :=
  (members.lookup name).getD .null

/-- The field of an object with a given name, `null` when there is none or the
value is no object. -/
def field (name : String) : Json → Json
  | .object members => member name members
  | _ => .null

def need (value : Json) (name : String) (decode : Json → Option α) : Option α :=
  decode (value.field name)

def want (value : Json) (name : String) (decode : Json → Option α) : Option (Option α) :=
  (value.field name).optional? decode

def namedFields? (names : List String) : Json → Option (List Json)
  | .object members => some (names.map fun name => member name members)
  | _ => none

def fields? (names : List String) : Json → Option (List Json)
  | .array items => if items.length = names.length then some items else none
  | value => value.namedFields? names

def dictionary? (decode : Json → Option α) : Json → Option (Dictionary α)
  | .object members => do
    let entries ← members.mapM fun (name, value) =>
      (decode value).map fun item => (name, item)
    return Dictionary.ofList entries
  | _ => none

/-- The value of a dictionary: an object with the keys in ascending order. -/
def dictionary (encode : α → Json) (entries : Dictionary α) : Json :=
  .object (entries.entries.map fun (name, value) => (name, encode value))

/-- The name of a variant and its data.  A bare name carries none. -/
def variant? : Json → Option (String × Option Json)
  | .string name => some (name, none)
  | .object [(name, data)] => some (name, some data)
  | _ => none

/-- The name of a variant without data, written bare or with `null` as data. -/
def plainVariant? : Json → Option String
  | .string name => some name
  | .object [(name, .null)] => some name
  | _ => none

def choice? (names : List (String × α)) (value : Json) : Option α :=
  value.plainVariant?.bind fun name => List.lookup name names

end Json

end CatalogGateway
