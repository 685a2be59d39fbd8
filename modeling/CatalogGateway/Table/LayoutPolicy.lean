import CatalogGateway.Json.Decoding

/-!
# Layout policies

What becomes of the parts of a layout that a provider cannot store.
-/

namespace CatalogGateway

/-- How unsupported parts of a layout are treated. -/
inductive LayoutPolicy where
  /-- They are left out. -/
  | bestEffort
  /-- They are refused, and the table with them. -/
  | required
deriving DecidableEq, Inhabited, Repr

namespace LayoutPolicy

def toJson : LayoutPolicy → Json
  | bestEffort => .string "best_effort"
  | required => .string "required"

def ofJson? : Json → Option LayoutPolicy :=
  Json.choice? [("best_effort", bestEffort), ("required", required)]

/-- The policy's name in descriptions. -/
def label : LayoutPolicy → String
  | bestEffort => "BestEffort"
  | required => "Required"

end LayoutPolicy

end CatalogGateway
