import InteractiveFiction.Document.Coercion

/-!
Outcomes: what became of one part of a bundle.
-/

set_option autoImplicit false

namespace InteractiveFiction

structure Outcome where
  type : String
  success : Bool := true
  description : String
  oldValue : Document := .null
  newValue : Document := .null
  change : Document := .null
  metadata : Fields := []
  error : Option String := none
  timestamp : String
deriving DecidableEq

namespace Outcome

def toDocument (outcome : Outcome) : Document :=
  .object [("type", .text outcome.type), ("success", .bool outcome.success),
    ("description", .text outcome.description), ("oldValue", outcome.oldValue),
    ("newValue", outcome.newValue), ("change", outcome.change),
    ("metadata", .object outcome.metadata),
    ("error", Document.ofOption (outcome.error.map Document.text)),
    ("timestamp", .text outcome.timestamp)]

/-- Where the last teleport that succeeded leads. -/
def teleportTarget (outcomes : List Outcome) : Option Document :=
  let targets := outcomes.filter fun outcome =>
    outcome.success && Fields.getD outcome.metadata "customType" .null == .text "teleport"
  targets.getLast?.map fun outcome => Fields.getD outcome.metadata "targetScene" .null

end Outcome

end InteractiveFiction
