/-!
# ScopedAccess.Log

Log entries: a level, a message and named values.
-/

namespace ScopedAccess

/-- How much an entry matters. -/
inductive LogLevel where
  | trace
  | debug
  | info
  | warn
  | error
deriving DecidableEq, Inhabited

def LogLevel.name : LogLevel → String
  | trace => "trace"
  | debug => "debug"
  | info => "info"
  | warn => "warn"
  | error => "error"

/-- A named value of an entry. -/
inductive LogValue where
  | text (s : String)
  | number (n : Nat)
  | flag (b : Bool)
deriving DecidableEq, Inhabited

/-- An entry. -/
structure LogEntry where
  level : LogLevel
  message : String
  fields : List (String × LogValue)
deriving DecidableEq, Inhabited

end ScopedAccess
