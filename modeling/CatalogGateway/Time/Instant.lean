import CatalogGateway.Json.Decoding
import CatalogGateway.Text.Blank
import CatalogGateway.Text.Numeral

/-!
# Instants

A point in time in UTC, written by date and time of day in the proleptic Gregorian
calendar.  Reading accepts any offset from UTC, blanks around the numbers, and a
blank instead of the letter between date and time.
-/

namespace CatalogGateway

/-- A point in time.  Within a leap second the nanoseconds go on counting beyond the
second before it. -/
structure Instant where
  /-- The seconds since the start of 1970 in UTC. -/
  seconds : Int
  nanos : Nat
deriving DecidableEq, Inhabited, Repr

namespace Instant

/-- A day of the calendar. -/
structure Date where
  year : Int
  month : Nat
  day : Nat
deriving DecidableEq, Inhabited, Repr

def isLeapYear (year : Int) : Bool :=
  year % 4 = 0 && (year % 100 ≠ 0 || year % 400 = 0)

def daysInMonth (year : Int) (month : Nat) : Nat :=
  if month = 2 then if isLeapYear year then 29 else 28
  else if month ∈ [4, 6, 9, 11] then 30
  else 31

/-- The days from the start of 1970 to a date.  Years are counted from March, so that
the leap day is the last. -/
def daysOfDate (date : Date) : Int :=
  let year := if date.month ≤ 2 then date.year - 1 else date.year
  let month := (date.month + 9) % 12
  let dayOfYear : Int := (153 * month + 2) / 5 + date.day - 1
  365 * year + year / 4 - year / 100 + year / 400 + dayOfYear - 719468

/-- The date so many days after the start of 1970. -/
def dateOfDays (days : Int) : Date :=
  let shifted := days + 719468
  let era := shifted / 146097
  let dayOfEra := (shifted - era * 146097).toNat
  let yearOfEra :=
    (dayOfEra - dayOfEra / 1460 + dayOfEra / 36524 - dayOfEra / 146096) / 365
  let dayOfYear := dayOfEra - (365 * yearOfEra + yearOfEra / 4 - yearOfEra / 100)
  let monthFromMarch := (5 * dayOfYear + 2) / 153
  let month := if monthFromMarch < 10 then monthFromMarch + 3 else monthFromMarch - 9
  { year := yearOfEra + era * 400 + if month ≤ 2 then 1 else 0
    month
    day := dayOfYear - (153 * monthFromMarch + 2) / 5 + 1 }

/-- The first and the last year that dates may lie in. -/
def yearRange : Int × Int := (-262143, 262142)

/-- A number in at least so many digits. -/
def padded (width number : Nat) : List Char :=
  let digits := Text.decimal number
  List.replicate (width - digits.length) '0' ++ digits

/-- The written form of a year: four digits, or a sign and at least four. -/
def yearText (year : Int) : List Char :=
  if 0 ≤ year ∧ year ≤ 9999 then padded 4 year.toNat
  else (if year < 0 then '-' else '+') :: padded 4 year.natAbs

/-- The written form of a fraction of a second: nothing, or 3, 6 or 9 digits. -/
def fractionText (nanos : Nat) : List Char :=
  if nanos = 0 then []
  else if nanos % 1000000 = 0 then '.' :: padded 3 (nanos / 1000000)
  else if nanos % 1000 = 0 then '.' :: padded 6 (nanos / 1000)
  else '.' :: padded 9 nanos

/-- The written form of an instant. -/
def display (instant : Instant) : String :=
  let date := dateOfDays (instant.seconds / 86400)
  let second := (instant.seconds % 86400).toNat
  let leap := instant.nanos / 1000000000
  String.ofList <|
    yearText date.year ++ '-' :: padded 2 date.month ++ '-' :: padded 2 date.day ++
      'T' :: padded 2 (second / 3600) ++ ':' :: padded 2 (second / 60 % 60) ++
      ':' :: padded 2 (second % 60 + leap) ++ fractionText (instant.nanos % 1000000000) ++ ['Z']

/-- A number of at least one and at most so many digits after blanks, and what
follows it. -/
def number? (width : Nat) (text : List Char) : Option (Nat × List Char) := do
  let start := Text.trimStart text
  let digits := (start.take width).takeWhile Char.isDigit
  return (← Text.digits? digits, start.drop digits.length)

/-- A year after blanks, of four digits at most unless it has a sign. -/
def year? (text : List Char) : Option (Int × List Char) :=
  match Text.trimStart text with
  | '-' :: rest => do
    guard (rest.head?.all Char.isDigit)
    let (year, after) ← number? rest.length rest
    return (-(year : Int), after)
  | '+' :: rest => do
    guard (rest.head?.all Char.isDigit)
    let (year, after) ← number? rest.length rest
    return ((year : Int), after)
  | rest => do
    let (year, after) ← number? 4 rest
    return ((year : Int), after)

/-- What follows a mark after blanks. -/
def mark? (mark : Char) (text : List Char) : Option (List Char) :=
  match Text.trimStart text with
  | [] => none
  | character :: rest => if character = mark then some rest else none

def date? (text : List Char) : Option (Date × List Char) := do
  let (year, rest) ← year? text
  let (month, rest) ← number? 2 (← mark? '-' rest)
  let (day, rest) ← number? 2 (← mark? '-' rest)
  guard (yearRange.1 ≤ year ∧ year ≤ yearRange.2)
  guard (1 ≤ month ∧ month ≤ 12 ∧ 1 ≤ day ∧ day ≤ daysInMonth year month)
  return (⟨year, month, day⟩, rest)

/-- The nanoseconds of a fraction, of which nine digits count, and what follows. -/
def fraction? : List Char → Option (Nat × List Char)
  | '.' :: rest => do
    let digits := (rest.take 9).takeWhile Char.isDigit
    let value ← Text.digits? digits
    return (value * Nat.pow 10 (9 - digits.length), rest.dropWhile Char.isDigit)
  | rest => some (0, rest)

/-- A time of day in seconds and nanoseconds, and what follows it.  A sixtieth second
counts as nanoseconds beyond the one before it. -/
def time? (text : List Char) : Option (Nat × Nat × List Char) := do
  let (hour, rest) ← number? 2 text
  let (minute, rest) ← number? 2 (← mark? ':' rest)
  let (second, rest) ← number? 2 (← mark? ':' rest)
  let (nanos, rest) ← fraction? rest
  guard (hour < 24 ∧ minute < 60 ∧ second ≤ 60)
  let (second, nanos) := if second = 60 then (59, nanos + 1000000000) else (second, nanos)
  return (hour * 3600 + minute * 60 + second, nanos, rest)

def twoDigits? : List Char → Option (Nat × List Char)
  | first :: second :: rest => do
    guard (first.isDigit && second.isDigit)
    return (← Text.digits? [first, second], rest)
  | _ => none

/-- An offset from UTC in seconds, and what follows it. -/
def offset? (text : List Char) : Option (Int × List Char) :=
  match text with
  | 'Z' :: rest | 'z' :: rest => some (0, rest)
  | sign :: rest =>
    if (text.take 3).map Char.toUpper = "UTC".toList then some (0, text.drop 3)
    else do
      guard (sign = '+' ∨ sign = '-' ∨ sign = '−')
      let (hours, rest) ← twoDigits? rest
      let (minutes, rest) ← twoDigits?
        (rest.dropWhile fun character => character = ':' || Text.isBlank character)
      guard (hours < 24 ∧ minutes < 60)
      let size : Int := hours * 3600 + minutes * 60
      return (if sign = '+' then size else -size, rest)
  | [] => none

def parse? (text : String) : Option Instant := do
  let (date, rest) ← date? text.toList
  let separator :: rest := rest | none
  guard (separator ∈ ['t', 'T', ' '])
  let (second, nanos, rest) ← time? rest
  let (offset, rest) ← offset? (Text.trimStart rest)
  guard (Text.trimStart rest).isEmpty
  let seconds := daysOfDate date * 86400 + second - offset
  guard (daysOfDate ⟨yearRange.1, 1, 1⟩ * 86400 ≤ seconds ∧
    seconds < (daysOfDate ⟨yearRange.2, 12, 31⟩ + 1) * 86400)
  return ⟨seconds, nanos⟩

def toJson (instant : Instant) : Json :=
  .string instant.display

def ofJson? (value : Json) : Option Instant :=
  value.string?.bind parse?

end Instant

end CatalogGateway
