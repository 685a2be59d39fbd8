/-!
# Numbers written in decimal

A numeral is an optional sign followed by one or more ASCII digits.  Reading is
exact: no blanks, separators or digits of other scripts are accepted, and the
caller bounds the value.
-/

namespace CatalogGateway

namespace Text

/-- Continue reading digits after a part with the given value. -/
def digitsFrom (value : Nat) : List Char → Option Nat
  | [] => some value
  | character :: rest =>
    if character.isDigit then
      digitsFrom (10 * value + (character.toNat - '0'.toNat)) rest
    else none

/-- The value of a nonempty run of ASCII digits. -/
def digits? : List Char → Option Nat
  | [] => none
  | character :: rest => digitsFrom 0 (character :: rest)

/-- The value of a numeral that may carry a plus sign. -/
def unsigned? : List Char → Option Nat
  | '+' :: rest => digits? rest
  | text => digits? text

/-- The value of a numeral that may carry either sign. -/
def signed? : List Char → Option Int
  | '-' :: rest => (digits? rest).map fun value => -(value : Int)
  | '+' :: rest => (digits? rest).map fun value => (value : Int)
  | text => (digits? text).map fun value => (value : Int)

/-- The value of a signed numeral that fits a 64-bit word. -/
def int64? (text : List Char) : Option Int64 :=
  match signed? text with
  | some value =>
    if Int64.minValue.toInt ≤ value ∧ value ≤ Int64.maxValue.toInt then
      some (Int64.ofInt value)
    else none
  | none => none

/-- The value of an unsigned numeral that fits a 32-bit word. -/
def uint32? (text : List Char) : Option UInt32 :=
  match unsigned? text with
  | some value => if value < UInt32.size then some (UInt32.ofNat value) else none
  | none => none

/-- The value of an unsigned numeral that fits a 64-bit word. -/
def uint64? (text : List Char) : Option UInt64 :=
  match unsigned? text with
  | some value => if value < UInt64.size then some (UInt64.ofNat value) else none
  | none => none

def decimal (number : Nat) : List Char :=
  Nat.toDigits 10 number

end Text

end CatalogGateway
