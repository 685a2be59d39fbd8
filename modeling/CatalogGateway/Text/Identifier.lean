import CatalogGateway.Text.Alphanumeric

/-!
# Identifiers in delimited texts

An identifier that is a plain word is written as it is; every other one stands
between double quotes, with its own quotes doubled.  `Identifier.split?` reads
the identifier at the front of a text and hands back what follows it.
-/

namespace CatalogGateway

namespace Text

namespace Identifier

/-- Whether an identifier is written without quotes. -/
def isPlain (column : List Char) : Bool :=
  !column.isEmpty && column.all isWordCharacter

def doubleQuotes (column : List Char) : List Char :=
  column.flatMap fun character =>
    if character = '"' then ['"', '"'] else [character]

/-- The written form of an identifier. -/
def quote (column : List Char) : List Char :=
  if isPlain column then column else '"' :: (doubleQuotes column ++ ['"'])

def quoted (column : String) : String :=
  String.ofList (quote column.toList)

/-- Read up to the closing quote of a quoted identifier, undoubling quotes.
There is no result when the quote is never closed. -/
def readQuoted : List Char → Option (List Char × List Char)
  | [] => none
  | '"' :: '"' :: rest =>
    (readQuoted rest).map fun (column, remainder) => ('"' :: column, remainder)
  | '"' :: rest => some ([], rest)
  | character :: rest =>
    (readQuoted rest).map fun (column, remainder) => (character :: column, remainder)

/-- An identifier read from the front of a text. -/
structure Front where
  /-- The identifier without its quotes. -/
  column : List Char
  quoted : Bool
  /-- What follows it. -/
  rest : List Char
deriving DecidableEq, Repr

/-- The identifier at the front of a text, after leading blanks.  An empty
identifier and an unclosed quote have no reading. -/
def split? (text : List Char) : Option Front :=
  match trimStart text with
  | '"' :: quoted =>
    match readQuoted quoted with
    | some (character :: column, rest) => some ⟨character :: column, true, rest⟩
    | _ => none
  | unquoted =>
    match unquoted.takeWhile isWordCharacter with
    | [] => none
    | character :: column =>
      some ⟨character :: column, false, unquoted.dropWhile isWordCharacter⟩

end Identifier

end Text

end CatalogGateway
