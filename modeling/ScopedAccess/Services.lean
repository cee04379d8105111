import ScopedAccess.Directory
import ScopedAccess.Engine
import ScopedAccess.WorkspaceCache

/-!
# ScopedAccess.Services

The services a call asks, as what they answer to every question, and the world of one call made
from them and the workspaces remembered.
-/

namespace ScopedAccess

/-- What the services answer. -/
structure Services where
  permissions : String → String → Reply (Except DirectoryFault (List Permission))
  workspace : String → Reply (Except LookupFault Workspace)
  check : CheckQuery → Reply (Except CheckFault Bool)
  /-- What a service logs when it answers a check. -/
  checkLog : CheckQuery → List LogEntry

/-- A directory as services: it answers at once. -/
def Directory.services (d : Directory) : Services where
  permissions := fun subject _ => .atOnce (d.permissionsOf subject)
  workspace := fun tenant => .atOnce (d.workspaceOf tenant)
  check := fun query => .atOnce (d.check query)
  checkLog := d.checkLog

namespace Services

/-- Where the workspace of a tenant comes from. -/
def workspaceAnswer (s : Services) (remembered : Option Workspace) (tenant : String) :
    WorkspaceAnswer :=
  match remembered with
  | some workspace => .remembered workspace
  | none => .asked (s.workspace tenant)

/-- The world of a call, given the workspace remembered for its tenant. -/
def world (s : Services) (remembered : Option Workspace) (request : Request) : World where
  permissions := s.permissions request.subject request.tenant
  relationships := ⟨s.workspaceAnswer remembered request.tenant, fun _ query => s.check query⟩

end Services

end ScopedAccess
