import CatalogGateway.Text.Blank

/-!
# Log filters

A log filter is a base filter with further directives on top.  The environment may
replace the base, unless it is blank or the filter does not read it.
-/

namespace CatalogGateway

/-- The settings of a log filter. -/
structure LogFilter where
  /-- The base, unless the environment replaces it. -/
  base : String := "info"
  /-- What applies on top of the base, in order. -/
  directives : List String := []
  /-- Whether the environment may replace the base. -/
  readsEnvironment : Bool := true
deriving DecidableEq, Inhabited, Repr

namespace LogFilter

def effectiveBase (filter : LogFilter) (environment : Option String) : String :=
  match environment with
  | none => filter.base
  | some text =>
    if filter.readsEnvironment && (Text.trimmed text).isEmpty = false then text
    else filter.base

/-- The directives that take effect, separated by commas. -/
def render (filter : LogFilter) (environment : Option String) : String :=
  String.intercalate "," (filter.effectiveBase environment :: filter.directives)

end LogFilter

end CatalogGateway
