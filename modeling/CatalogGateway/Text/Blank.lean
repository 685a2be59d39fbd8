import CatalogGateway.Text.Ranges

/-!
# Blank characters

The characters with the Unicode property `White_Space`, and the three uses the
library makes of them: trimming a text, skipping leading blanks, and cutting a
text into words.
-/

namespace CatalogGateway

namespace Text

/-- The code points with the Unicode property `White_Space`. -/
def blankRanges : List (Nat × Nat) :=
  [(0x9, 0xd), (0x20, 0x20), (0x85, 0x85), (0xa0, 0xa0), (0x1680, 0x1680),
    (0x2000, 0x200a), (0x2028, 0x2029), (0x202f, 0x202f), (0x205f, 0x205f),
    (0x3000, 0x3000)]

/-- Whether a character is a Unicode space, tab or line break. -/
def isBlank (character : Char) : Bool :=
  inRanges character.toNat blankRanges

/-- The text without its leading blanks. -/
def trimStart (text : List Char) : List Char :=
  text.dropWhile isBlank

/-- The text without its trailing blanks. -/
def trimEnd (text : List Char) : List Char :=
  (text.reverse.dropWhile isBlank).reverse

/-- The text without leading and trailing blanks. -/
def trim (text : List Char) : List Char :=
  trimEnd (trimStart text)

/-- The maximal runs of characters that are not blank, in order. -/
def words (text : List Char) : List (List Char) :=
  (text.splitOnP isBlank).filter fun word => !word.isEmpty

/-- The string without leading and trailing blanks. -/
def trimmed (text : String) : String :=
  String.ofList (trim text.toList)

end Text

end CatalogGateway
