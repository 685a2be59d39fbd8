import CatalogGateway.Fault

/-!
# Reports of passes

What a reconciliation pass did, by the keys of the catalogs.
-/

namespace CatalogGateway

/-- The outcome of a pass. -/
structure ReconcileReport where
  created : List String := []
  reloaded : List String := []
  dropped : List String := []
  unchanged : List String := []
  /-- The catalogs that could not be described or built, with the reasons. -/
  failed : List (String × Fault) := []
deriving DecidableEq, Inhabited, Repr

namespace ReconcileReport

/-- Whether nothing failed. -/
def isSuccess (report : ReconcileReport) : Bool :=
  report.failed.isEmpty

/-- Whether nothing was done and nothing failed. -/
def isNoop (report : ReconcileReport) : Bool :=
  report.created.isEmpty && report.reloaded.isEmpty && report.dropped.isEmpty &&
    report.failed.isEmpty

def firstFault? (report : ReconcileReport) : Option Fault :=
  report.failed.head?.map Prod.snd

/-- The keys in ascending order. -/
def sortKeys (keys : List String) : List String :=
  keys.mergeSort fun first second => decide (first ≤ second)

/-- The report with its lists in ascending order of keys. -/
def sorted (report : ReconcileReport) : ReconcileReport where
  created := sortKeys report.created
  reloaded := sortKeys report.reloaded
  dropped := sortKeys report.dropped
  unchanged := sortKeys report.unchanged
  failed := report.failed.mergeSort fun first second => decide (first.1 ≤ second.1)

end ReconcileReport

end CatalogGateway
