import CatalogGateway.Json.Decoding

/-!
# Diagnostics

A diagnostic is what a caller is shown of a failure: a report with a stable code
and a broad kind, followed by the reports of the failures that led to it, nearest
first.
-/

namespace CatalogGateway

/-- The broad classification of a failure, on which callers branch. -/
inductive ErrorKind where
  | notFound
  | alreadyExists
  | unsupported
  | unsupportedType
  | invalidArgument
  | invalidChange
  | constructionFailure
  | timeout
  | storage
  | internal
deriving DecidableEq, Inhabited, Repr

namespace ErrorKind

/-- The kind as it is shown. -/
def display : ErrorKind → String
  | notFound => "not found"
  | alreadyExists => "already exists"
  | unsupported => "unsupported operation"
  | unsupportedType => "unsupported type"
  | invalidArgument => "invalid argument"
  | invalidChange => "invalid change"
  | constructionFailure => "construction failure"
  | timeout => "timeout"
  | storage => "storage"
  | internal => "internal"

/-- The encoded name of a kind. -/
def label : ErrorKind → String
  | notFound => "NotFound"
  | alreadyExists => "AlreadyExists"
  | unsupported => "Unsupported"
  | unsupportedType => "UnsupportedType"
  | invalidArgument => "InvalidArgument"
  | invalidChange => "InvalidChange"
  | constructionFailure => "ConstructionFailure"
  | timeout => "Timeout"
  | storage => "Storage"
  | internal => "Internal"

def named : List (String × ErrorKind) :=
  [notFound, alreadyExists, unsupported, unsupportedType, invalidArgument, invalidChange,
    constructionFailure, timeout, storage, internal].map fun kind => (kind.label, kind)

def toJson (kind : ErrorKind) : Json :=
  .string kind.label

def ofJson? : Json → Option ErrorKind :=
  Json.choice? named

end ErrorKind

/-- What is shown of one failure. -/
structure Report where
  /-- The stable code of the exact failure. -/
  code : String
  /-- Its broad kind. -/
  kind : ErrorKind
  /-- What happened. -/
  message : String
  /-- What the failure points at. -/
  label : Option String := none
  /-- What the caller can do about it. -/
  help : Option String := none
  /-- Further facts, in order. -/
  notes : List String := []
deriving DecidableEq, Inhabited, Repr

/-- A report with the reports of its causes. -/
structure Diagnostic where
  /-- The failure itself. -/
  report : Report
  /-- What led to it, nearest first. -/
  causes : List Report := []
deriving DecidableEq, Inhabited, Repr

namespace Report

/-- The lines of a report, all but the first indented one step further. -/
def lines (report : Report) : List String :=
  [s!"[{report.code}] {report.message}"] ++
    (report.label.map fun text => s!"  --> {text}").toList ++
    (report.notes.map fun text => s!"  note: {text}") ++
    (report.help.map fun text => s!"  help: {text}").toList

def toJson (report : Report) (cause : Json) : Json :=
  .object [("code", .string report.code), ("kind", report.kind.toJson),
    ("message", .string report.message), ("label", .optionalString report.label),
    ("help", .optionalString report.help), ("notes", .strings report.notes), ("cause", cause)]

def ofFields? (code kind message label help notes : Json) : Option Report := do
  return {
    code := ← code.string?, kind := ← ErrorKind.ofJson? kind, message := ← message.string?,
    label := ← label.optionalString?, help := ← help.optionalString?,
    notes := ← notes.strings? }

end Report

namespace Diagnostic

/-- The kind of the failure itself. -/
def kind (diagnostic : Diagnostic) : ErrorKind :=
  diagnostic.report.kind

def withNote (diagnostic : Diagnostic) (note : String) : Diagnostic :=
  { diagnostic with
    report := { diagnostic.report with notes := diagnostic.report.notes ++ [note] } }

/-- The diagnostic with another cause in place of any it had. -/
def withCause (diagnostic cause : Diagnostic) : Diagnostic :=
  { diagnostic with causes := cause.report :: cause.causes }

def cause? (diagnostic : Diagnostic) : Option Diagnostic :=
  match diagnostic.causes with
  | [] => none
  | nearest :: rest => some ⟨nearest, rest⟩

/-- The lines of a chain of reports, each cause below an announcement and one step
further to the right. -/
def chainLines (indent : String) : List Report → List String
  | [] => []
  | report :: rest =>
    report.lines.map (indent ++ ·) ++
      (if rest.isEmpty then [] else [indent ++ "  caused by:"]) ++
      chainLines (indent ++ "  ") rest

def render (diagnostic : Diagnostic) : String :=
  String.intercalate "\n" (chainLines "" (diagnostic.report :: diagnostic.causes))

def chainToJson : List Report → Json
  | [] => .null
  | report :: rest => report.toJson (chainToJson rest)

def toJson (diagnostic : Diagnostic) : Json :=
  chainToJson (diagnostic.report :: diagnostic.causes)

mutual

/-- Read a chain of reports; `null` ends it. -/
def chainOfJson? : Json → Option (List Report)
  | .null => some []
  | .object members => do
    let report ← Report.ofFields? (Json.member "code" members) (Json.member "kind" members)
      (Json.member "message" members) (Json.member "label" members)
      (Json.member "help" members) (Json.member "notes" members)
    return report :: (← causeOfMembers? members)
  | .array [code, kind, message, label, help, notes, cause] => do
    return (← Report.ofFields? code kind message label help notes) :: (← chainOfJson? cause)
  | _ => none

/-- Read the chain of causes among the members of an object. -/
def causeOfMembers? : List (String × Json) → Option (List Report)
  | [] => some []
  | (name, value) :: rest =>
    if name = "cause" then chainOfJson? value else causeOfMembers? rest

end

def ofJson? (value : Json) : Option Diagnostic := do
  let report :: causes ← chainOfJson? value | none
  return ⟨report, causes⟩

end Diagnostic

end CatalogGateway
