import ScopedAccess.Event
import ScopedAccess.Subject

/-!
# ScopedAccess.Effect

What the library does to the world around it.
-/

namespace ScopedAccess

/-- An act that can be seen from outside. -/
inductive Effect where
  /-- The permissions of a subject are asked for. -/
  | fetch (subject tenant : String)
  /-- The workspace of a tenant is asked for. -/
  | lookup (tenant : String)
  /-- The workspace asked for is known. -/
  | found (tenant : String) (workspace : Workspace)
  /-- A check is asked for. -/
  | check (query : CheckQuery)
  /-- The rollout policy is asked for. -/
  | fetchPolicy
  /-- An event is offered to the sink. -/
  | offer (event : Event)
  | log (entry : LogEntry)
deriving DecidableEq, Inhabited

end ScopedAccess
