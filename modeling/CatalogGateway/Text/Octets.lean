/-!
# Texts as bytes

A text is encoded in UTF-8.  Decoding never fails: where bytes encode no character, a
replacement character stands for the longest run of them that could have begun one.
-/

namespace CatalogGateway

/-- A text as the bytes that encode it. -/
abbrev Octets := List UInt8

namespace Octets

def ofText (text : String) : Octets :=
  text.toUTF8.data.toList

/-- The byte of a character below 128. -/
def ofAscii (character : Char) : UInt8 :=
  UInt8.ofNat character.toNat

/-- The least and the greatest value of each byte that follows a first one, or `none` if
no character is encoded with that first byte. -/
def bounds? (first : UInt8) : Option (List (UInt8 × UInt8)) :=
  let tail : UInt8 × UInt8 := (0x80, 0xBF)
  if first < 0x80 then some []
  else if first < 0xC2 then none
  else if first < 0xE0 then some [tail]
  else if first = 0xE0 then some [(0xA0, 0xBF), tail]
  else if first = 0xED then some [(0x80, 0x9F), tail]
  else if first < 0xF0 then some [tail, tail]
  else if first = 0xF0 then some [(0x90, 0xBF), tail, tail]
  else if first < 0xF4 then some [tail, tail, tail]
  else if first = 0xF4 then some [(0x80, 0x8F), tail, tail]
  else none

/-- How many bytes lie within their bounds before one that does not. -/
def countWithin : List (UInt8 × UInt8) → Octets → Nat
  | (low, high) :: bounds, octet :: rest =>
    if low ≤ octet && octet ≤ high then countWithin bounds rest + 1 else 0
  | _, _ => 0

/-- The character that a first byte and the right number of further ones encode. -/
def character (first : UInt8) (further : Octets) : Char :=
  let lead := if further.isEmpty then first.toNat else first.toNat % Nat.pow 2 (6 - further.length)
  Char.ofNat (further.foldl (fun code octet => 64 * code + octet.toNat % 64) lead)

/-- What stands for bytes that encode no character. -/
def replacement : Char := '\ufffd'

def toChars : Octets → List Char
  | [] => []
  | first :: rest =>
    match bounds? first with
    | none => replacement :: toChars rest
    | some bounds =>
      let count := countWithin bounds rest
      let read :=
        if count = bounds.length then character first (rest.take count) else replacement
      read :: toChars (rest.drop count)
termination_by octets => octets.length

def toText (octets : Octets) : String :=
  String.ofList octets.toChars

/-- Whether a byte is a decimal digit. -/
def isDigit (octet : UInt8) : Bool :=
  0x30 ≤ octet && octet ≤ 0x39

def hexDigit? (octet : UInt8) : Option UInt8 :=
  if isDigit octet then some (octet - 0x30)
  else if 0x41 ≤ octet && octet ≤ 0x46 then some (octet - 0x37)
  else if 0x61 ≤ octet && octet ≤ 0x66 then some (octet - 0x57)
  else none

/-- The value of two hexadecimal digits. -/
def hexPair? (high low : UInt8) : Option UInt8 := do
  return 16 * (← hexDigit? high) + (← hexDigit? low)

/-- The value of the digits that bytes begin with, in a base up to sixteen. -/
def leadingValue (base : Nat) (octets : Octets) : Nat :=
  let digits := octets.map fun octet => (hexDigit? octet).filter (·.toNat < base)
  ((digits.takeWhile Option.isSome).filterMap id).foldl
    (fun value digit => base * value + digit.toNat) 0

/-- The bytes before the first occurrence of a character, and those after it. -/
def cutAt (character : Char) (octets : Octets) : Octets × Octets :=
  let before := octets.takeWhile (· ≠ ofAscii character)
  (before, octets.drop (before.length + 1))

end Octets

end CatalogGateway
