/-!
# JSON values

A JSON value as a tree.  Members of an object keep the order in which they are
written.  The compact text of a value has no blanks; what the library needs of it
is its size in bytes and the place where a bracket first nests too deeply.
-/

namespace CatalogGateway

/-- A JSON value.  A number is its mantissa divided by a power of ten, so it is
written as an integer exactly when that power is zero. -/
inductive Json where
  /-- The value `null`. -/
  | null
  /-- A truth value. -/
  | bool (value : Bool)
  /-- The number `mantissa / 10 ^ places`. -/
  | number (mantissa : Int) (places : Nat)
  | string (text : String)
  | array (items : List Json)
  /-- Named values. -/
  | object (members : List (String × Json))
deriving Inhabited, Repr

namespace Json

def integer (value : Int) : Json :=
  .number value 0

def natural (value : Nat) : Json :=
  .number value 0

/-- The value of an optional part, which is `null` when the part is missing. -/
def optional {α : Type} (encode : α → Json) : Option α → Json
  | none => .null
  | some value => encode value

def optionalString : Option String → Json :=
  optional .string

def list {α : Type} (encode : α → Json) (items : List α) : Json :=
  .array (items.map encode)

def strings (items : List String) : Json :=
  list .string items

def variant (name : String) (data : Json) : Json :=
  .object [(name, data)]

/-- The bytes that one character takes inside a written text. -/
def characterSize (character : Char) : Nat :=
  if character ∈ ['"', '\\', '\n', '\r', '\t', '\x08', '\x0c'] then 2
  else if character.toNat < 0x20 then 6
  else character.utf8Size

/-- The bytes of a written text, its two quotes included. -/
def textSize (text : String) : Nat :=
  text.toList.foldl (fun size character => size + characterSize character) 2

/-- The bytes of a written number. -/
def numberSize (mantissa : Int) (places : Nat) : Nat :=
  (toString mantissa).utf8ByteSize +
    if places = 0 then 0 else 2 + (toString places).utf8ByteSize

mutual

/-- The bytes of the compact text. -/
def size : Json → Nat
  | null => 4
  | bool value => if value then 4 else 5
  | number mantissa places => numberSize mantissa places
  | string text => textSize text
  | array items => 2 + itemsSize items
  | object members => 2 + membersSize members

/-- The bytes between the brackets of an array. -/
def itemsSize : List Json → Nat
  | [] => 0
  | [item] => item.size
  | item :: next :: rest => item.size + 1 + itemsSize (next :: rest)

/-- The bytes between the brackets of an object. -/
def membersSize : List (String × Json) → Nat
  | [] => 0
  | [(name, value)] => textSize name + 1 + value.size
  | (name, value) :: next :: rest =>
    textSize name + 1 + value.size + 1 + membersSize (next :: rest)

end

mutual

/-- The number of brackets open at the deepest place. -/
def depth : Json → Nat
  | array items => 1 + itemsDepth items
  | object members => 1 + membersDepth members
  | _ => 0

def itemsDepth : List Json → Nat
  | [] => 0
  | item :: rest => max item.depth (itemsDepth rest)

/-- The depth of the deepest value of an object. -/
def membersDepth : List (String × Json) → Nat
  | [] => 0
  | (_, value) :: rest => max value.depth (membersDepth rest)

end

mutual

/-- The byte column, in the compact text, of the first bracket that opens more
than the given number of levels.  The value itself starts at the given column. -/
def excess? (value : Json) (levels column : Nat) : Option Nat :=
  match value, levels with
  | array _, 0 => some column
  | object _, 0 => some column
  | array items, levels + 1 => itemsExcess? items levels (column + 1)
  | object members, levels + 1 => membersExcess? members levels (column + 1)
  | _, _ => none

/-- The first such bracket within the items of an array. -/
def itemsExcess? (items : List Json) (levels column : Nat) : Option Nat :=
  match items with
  | [] => none
  | item :: rest =>
    (item.excess? levels column).or
      (itemsExcess? rest levels (column + item.size + 1))

/-- The first such bracket within the members of an object. -/
def membersExcess? (members : List (String × Json)) (levels column : Nat) : Option Nat :=
  match members with
  | [] => none
  | (name, value) :: rest =>
    (value.excess? levels (column + textSize name + 1)).or
      (membersExcess? rest levels (column + textSize name + 1 + value.size + 1))

end

end Json

end CatalogGateway
