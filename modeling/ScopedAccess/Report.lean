import ScopedAccess.Event
import ScopedAccess.Json.Record

/-!
# ScopedAccess.Report

Error kinds, events and log entries as JSON.
-/

namespace ScopedAccess

def ErrorKind.ofJson? : Json → Option ErrorKind :=
  Json.readChoice .message (ErrorKind.all.map fun k => (k.name, k))

def ErrorKind.toJson (k : ErrorKind) : Json := .str k.name

def Event.toJson : Event → Json
  | comparison record => .obj [("comparison", record.toJson)]
  | error kind details => .obj [("kind", kind.toJson), ("details", .str details)]

/-- Writes the value of a field of a log entry. -/
def LogValue.toJson : LogValue → Json
  | text s => .str s
  | number n => .nat n
  | flag b => .bool b

def LogEntry.toJson (e : LogEntry) : Json :=
  .obj [("level", .str e.level.name), ("message", .str e.message),
    ("fields", .obj (e.fields.map fun (name, v) => (name, v.toJson)))]

end ScopedAccess
