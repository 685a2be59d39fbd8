import CatalogGateway.Fault

/-!
# Answers to requests

A request comes to a value or to a fault, and its answer shows which.  A script is a
list of steps, each with an answer of its own.  A step that cannot be read changes
nothing, and neither does it end the script.
-/

namespace CatalogGateway

namespace Report

def answerWith (report : Report) (cause : Json) : Json :=
  .object [("error", report.kind.toJson), ("code", .string report.code),
    ("message", .string report.message), ("label", .optionalString report.label),
    ("help", .optionalString report.help), ("notes", .strings report.notes),
    ("cause", cause)]

/-- A report with the reports of what caused it, the nearest cause first. -/
def answerChain (report : Report) : List Report → Json
  | [] => report.answerWith .null
  | cause :: rest => report.answerWith (answerChain cause rest)

end Report

def Diagnostic.answer (diagnostic : Diagnostic) : Json :=
  diagnostic.report.answerChain diagnostic.causes

namespace Script

/-- What a request that could be read comes to. -/
abbrev Outcome := Except Fault Json

/-- The answer to a request that cannot be read. -/
def unreadable : Json :=
  .object [("error", .string "BadInput")]

/-- The answer to a request that could be read. -/
def answer : Outcome → Json
  | .ok value => .object [("ok", value)]
  | .error fault => fault.diagnostic.answer

def run {σ : Type} (take : σ → Json → Option (Outcome × σ)) (state : σ) :
    List Json → List Json × σ
  | [] => ([], state)
  | step :: rest =>
    let (first, after) := match take state step with
      | none => (unreadable, state)
      | some (outcome, after) => (answer outcome, after)
    let (answers, final) := run take after rest
    (first :: answers, final)

end Script

end CatalogGateway
