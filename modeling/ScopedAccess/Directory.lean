import ScopedAccess.Fault
import ScopedAccess.Log
import ScopedAccess.NameMap
import ScopedAccess.Permission
import ScopedAccess.Subject
import ScopedAccess.Text.Blank
import ScopedAccess.Text.Pieces

/-!
# ScopedAccess.Directory

Services that answer from a fixed directory: permissions by subject, workspaces by tenant, and
relationship grants. Each of the three may pretend to be down.
-/

namespace ScopedAccess

/-- How checks are answered. -/
inductive CheckMode where
  | allowAll
  | denyAll
  | grants
deriving DecidableEq, Inhabited

/-- A subject holds a relation on a workspace. -/
structure Grant where
  subject : String
  subjectType : SubjectType
  workspace : String
  relation : String
deriving DecidableEq, Inhabited

/-- The services that pretend to be down. -/
structure Outage where
  permissions : Bool
  workspaces : Bool
  checks : Bool
deriving DecidableEq, Inhabited

/-- A fixed directory. -/
structure Directory where
  mode : CheckMode
  /-- The workspace of tenants that are not listed; blank where they have none. -/
  pattern : String
  workspaces : NameMap String
  grants : List Grant
  permissions : NameMap (List Permission)
  outage : Outage
deriving DecidableEq

def tenantHole : String := "\x7btenant\x7d"

namespace Directory

def standard : Directory where
  mode := .grants
  pattern := tenantHole ++ "-default"
  workspaces := .empty
  grants := []
  permissions := .empty
  outage := ⟨false, false, false⟩

instance : Inhabited Directory := ⟨standard⟩

def permissionsOf (d : Directory) (subject : String) : Except DirectoryFault (List Permission) :=
  if d.outage.permissions then .error (.transport "simulated permission directory outage")
  else .ok ((d.permissions.find? subject).getD [])

def workspaceOf (d : Directory) (tenant : String) : Except LookupFault Workspace :=
  if d.outage.workspaces then .error (.transport "simulated workspace service outage")
  else
    match d.workspaces.find? tenant with
    | some id => .ok ⟨id⟩
    | none =>
      if Text.isBlankText d.pattern then .error (.noWorkspace tenant)
      else .ok ⟨Text.fill tenantHole tenant (Text.trim d.pattern)⟩

def covers (g : Grant) (q : CheckQuery) : Bool :=
  g.subject == q.principal.id && g.subjectType == q.principal.kind && g.workspace == q.workspace.id &&
    g.relation == q.relation

/-- Whether a query is allowed while checks are answered. -/
def allows (d : Directory) (q : CheckQuery) : Bool :=
  match d.mode with
  | .allowAll => true
  | .denyAll => false
  | .grants => d.grants.any fun g => covers g q

def check (d : Directory) (q : CheckQuery) : Except CheckFault Bool :=
  if d.outage.checks then .error (.transport "simulated relationship service outage")
  else .ok (d.allows q)

def checkLog (d : Directory) (q : CheckQuery) : List LogEntry :=
  match d.check q with
  | .error _ => []
  | .ok allowed =>
    [⟨.trace, "static relationship check",
      [("workspace", .text q.workspace.id), ("principal", .text q.principal.id),
        ("relation", .text q.relation), ("allowed", .flag allowed)]⟩]

end Directory

end ScopedAccess
