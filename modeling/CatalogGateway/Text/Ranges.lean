/-!
# Sets of characters given by ranges

A property of characters is stored as an ascending list of inclusive ranges of
code points.  Membership walks the list and stops at the first range that lies
above the code point.
-/

namespace CatalogGateway

namespace Text

/-- Whether `code` lies in one of the ascending inclusive `ranges`. -/
def inRanges (code : Nat) : List (Nat × Nat) → Bool
  | [] => false
  | (low, high) :: rest =>
    if code < low then false
    else if code ≤ high then true
    else inRanges code rest

end Text

end CatalogGateway
