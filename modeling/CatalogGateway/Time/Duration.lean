import CatalogGateway.Json.Decoding
import CatalogGateway.Text.Numeral

/-!
# Durations

A length of time in whole nanoseconds.  It is encoded as seconds and the
nanoseconds of the last second, and shown in the largest of the four units s, ms,
µs and ns that makes its whole part nonzero.
-/

namespace CatalogGateway

/-- A length of time. -/
structure Duration where
  nanoseconds : Nat
deriving DecidableEq, Inhabited, Repr

namespace Duration

def perSecond : Nat := 1000000000

def ofSeconds (seconds : Nat) : Duration :=
  ⟨seconds * perSecond⟩

def ofMilliseconds (milliseconds : Nat) : Duration :=
  ⟨milliseconds * 1000000⟩

def seconds (duration : Duration) : Nat :=
  duration.nanoseconds / perSecond

/-- The nanoseconds after the last whole second. -/
def nanosOfSecond (duration : Duration) : Nat :=
  duration.nanoseconds % perSecond

/-- The digits of a fraction below one, in units of `10 ^ -places`, without
trailing zeros. -/
def fractionDigits (fraction places : Nat) : List Char :=
  let digits := Text.decimal fraction
  let padded := List.replicate (places - digits.length) '0' ++ digits
  (padded.reverse.dropWhile (· = '0')).reverse

/-- A number of units of `10 ^ places` nanoseconds, with the decimals it needs. -/
def inUnits (nanoseconds places : Nat) (unit : String) : String :=
  let whole := Text.decimal (nanoseconds / Nat.pow 10 places)
  let fraction := fractionDigits (nanoseconds % Nat.pow 10 places) places
  let point := if fraction.isEmpty then [] else ['.']
  String.ofList (whole ++ point ++ fraction) ++ unit

/-- The duration in the largest unit of which it holds at least one. -/
def display (duration : Duration) : String :=
  if perSecond ≤ duration.nanoseconds then inUnits duration.nanoseconds 9 "s"
  else if 1000000 ≤ duration.nanoseconds then inUnits duration.nanoseconds 6 "ms"
  else if 1000 ≤ duration.nanoseconds then inUnits duration.nanoseconds 3 "µs"
  else inUnits duration.nanoseconds 0 "ns"

/-- The encoding by seconds and nanoseconds. -/
def toJson (duration : Duration) : Json :=
  .object [("secs", .natural duration.seconds), ("nanos", .natural duration.nanosOfSecond)]

/-- The duration of a number of seconds and a number of nanoseconds, which may
exceed a second.  There is none when the seconds do not fit a 64-bit word. -/
def ofParts? (seconds : UInt64) (nanos : UInt32) : Option Duration :=
  let total := seconds.toNat * perSecond + nanos.toNat
  if total / perSecond < UInt64.size then some ⟨total⟩ else none

/-- Read a duration.  Both fields are required and no others are accepted. -/
def ofJson? (value : Json) : Option Duration := do
  if let .object members := value then
    guard (members.all fun entry => entry.1 ∈ ["secs", "nanos"])
  let [seconds, nanos] ← value.fields? ["secs", "nanos"] | none
  ofParts? (← seconds.uint64?) (← nanos.uint32?)

end Duration

end CatalogGateway
