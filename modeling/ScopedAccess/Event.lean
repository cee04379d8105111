import ScopedAccess.Comparison
import ScopedAccess.Json.Printer
import ScopedAccess.Log

/-!
# ScopedAccess.Event

What a call reports beside its result: comparisons of the two models, and errors.

* `Event.logEntry` is how events are logged where nobody else takes them. A comparison is logged
  quietly only if the sides agree; otherwise it is a warning with the errors of both sides. Access
  is logged as JSON, so full access, no access and some access look different.
-/

namespace ScopedAccess

/-- A report. -/
inductive Event where
  | comparison (record : Comparison)
  | error (kind : ErrorKind) (details : String)
deriving DecidableEq, Inhabited

/-- The name of a source in log entries. -/
def Source.title : Source → String
  | .attribute => "Attribute"
  | .relationship => "Relationship"

/-- A field that is there only with a value. -/
def LogEntry.optional (name : String) : Option String → List (String × LogValue)
  | some s => [(name, .text s)]
  | none => []

def accessText (side : Option Decision) : Option String :=
  side.map fun d => Json.compact d.access.toJson

namespace Comparison

/-- Fields of a comparison's log entry. -/
def logFields (c : Comparison) : List (String × LogValue) :=
  [("subject_id", .text c.subject), ("tenant_id", .text c.tenant),
      ("authoritative", .text c.authoritative.title)] ++
    LogEntry.optional "attribute" (accessText c.attributeSide) ++
    LogEntry.optional "relationship" (accessText c.relationshipSide)

def logEntry (c : Comparison) : LogEntry :=
  if c.agreement then ⟨.debug, "authorization decisions agree", c.logFields⟩
  else
    ⟨.warn, "authorization decisions disagree",
      c.logFields ++ LogEntry.optional "attribute_error" c.attributeError ++
        LogEntry.optional "relationship_error" c.relationshipError⟩

end Comparison

def Event.logEntry : Event → LogEntry
  | comparison record => record.logEntry
  | error kind details =>
    ⟨.warn, "authorization error event", [("kind", .text kind.name), ("details", .text details)]⟩

end ScopedAccess
