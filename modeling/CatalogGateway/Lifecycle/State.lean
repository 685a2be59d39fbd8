/-!
# States of catalogs

Where a catalog is in its life as the lifecycle manager sees it.
-/

namespace CatalogGateway

/-- The state of a catalog. -/
inductive CatalogState where
  /-- Nothing has been published. -/
  | absent
  /-- It is built for the first time. -/
  | loading
  | active
  /-- A replacement is built while the catalog stays published. -/
  | reloading
  | dropped
deriving DecidableEq, Inhabited, Repr

def CatalogState.display : CatalogState → String
  | absent => "absent"
  | loading => "loading"
  | active => "active"
  | reloading => "reloading"
  | dropped => "dropped"

end CatalogGateway
