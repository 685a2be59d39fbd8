import CatalogGateway.Time.Instant

/-!
# Audit records

Who made an object and who last changed it, and when.
-/

namespace CatalogGateway

/-- The history of an object that is kept with it. -/
structure Audit where
  creator : String
  createTime : Instant
  lastModifier : Option String := none
  lastModifiedTime : Option Instant := none
deriving DecidableEq, Inhabited, Repr

namespace Audit

/-- The record after a change. -/
def modifiedBy (audit : Audit) (modifier : String) (time : Instant) : Audit :=
  { audit with lastModifier := some modifier, lastModifiedTime := some time }

def toJson (audit : Audit) : Json :=
  .object [("creator", .string audit.creator), ("create_time", audit.createTime.toJson),
    ("last_modifier", .optionalString audit.lastModifier),
    ("last_modified_time", .optional Instant.toJson audit.lastModifiedTime)]

def ofJson? (value : Json) : Option Audit := do
  let [creator, createTime, lastModifier, lastModifiedTime] ← value.fields?
    ["creator", "create_time", "last_modifier", "last_modified_time"] | none
  return {
    creator := ← creator.string?, createTime := ← Instant.ofJson? createTime,
    lastModifier := ← lastModifier.optionalString?,
    lastModifiedTime := ← lastModifiedTime.optional? Instant.ofJson? }

end Audit

end CatalogGateway
