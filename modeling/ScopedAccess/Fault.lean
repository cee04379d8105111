import ScopedAccess.Text.Decimal

/-!
# ScopedAccess.Fault

What can go wrong, as causes with a message each. Every fault means that access could not be
determined; a denial is never a fault.

* `CheckFault`, `LookupFault`, `DirectoryFault` and `PolicyFault` are the faults of the four
  services a call may ask.
* `AuthzError` is what an authorization call fails with. Only `isOutage` errors may be replaced by
  the attribute decision.
-/

namespace ScopedAccess

/-- Failure of one relationship check. -/
inductive CheckFault where
  | transport (reason : String)
  | timedOut (millis : Nat)
  | rejected (reason : String)
deriving DecidableEq, Inhabited

namespace CheckFault

def name : CheckFault → String
  | transport _ => "transport"
  | timedOut _ => "timeout"
  | rejected _ => "rejected"

def message : CheckFault → String
  | transport reason => "check transport failed: " ++ reason
  | timedOut millis => "check timed out after " ++ Text.Decimal.text millis ++ "ms"
  | rejected reason => "check rejected by relationship service: " ++ reason

end CheckFault

/-- Failure of a workspace lookup. -/
inductive LookupFault where
  | noWorkspace (tenant : String)
  | transport (reason : String)
deriving DecidableEq, Inhabited

def LookupFault.message : LookupFault → String
  | noWorkspace tenant => "no workspace for tenant '" ++ tenant ++ "'"
  | transport reason => "workspace service transport failed: " ++ reason

/-- Failure of a permission fetch. -/
inductive DirectoryFault where
  | transport (reason : String)
  | malformed (reason : String)
deriving DecidableEq, Inhabited

def DirectoryFault.message : DirectoryFault → String
  | transport reason => "permission directory transport failed: " ++ reason
  | malformed reason => "permission directory returned an unreadable response: " ++ reason

/-- Failure to obtain a rollout policy. -/
inductive PolicyFault where
  | unavailable (reason : String)
  | invalid (reason : String)
deriving DecidableEq, Inhabited

namespace PolicyFault

def name : PolicyFault → String
  | unavailable _ => "unavailable"
  | invalid _ => "invalid"

def message : PolicyFault → String
  | unavailable reason => "rollout policy source unavailable: " ++ reason
  | invalid reason => "rollout policy rejected: " ++ reason

end PolicyFault

/-- Kind of a reported error. A call recovers from the first two kinds, which are reported and never
returned. -/
inductive ErrorKind where
  | malformedPermissionData
  | relationshipCheckFailed
  | permissionFetchFailed
  | workspaceLookupFailed
  | relationshipServiceUnavailable
  | canceled
  | internal
deriving DecidableEq, Inhabited

def ErrorKind.name : ErrorKind → String
  | malformedPermissionData => "malformed_permission_data"
  | relationshipCheckFailed => "relationship_check_failed"
  | permissionFetchFailed => "permission_fetch_failed"
  | workspaceLookupFailed => "workspace_lookup_failed"
  | relationshipServiceUnavailable => "relationship_service_unavailable"
  | canceled => "canceled"
  | internal => "internal"

/-- All kinds. -/
def ErrorKind.all : List ErrorKind :=
  [malformedPermissionData, relationshipCheckFailed, permissionFetchFailed, workspaceLookupFailed,
    relationshipServiceUnavailable, canceled, internal]

/-- Why an authorization call returns no decision. -/
inductive AuthzError where
  | lookupFailed (tenant reason : String)
  | serviceUnavailable (failedChecks : Nat) (reason : String)
  | fetchFailed (reason : String)
  | canceled
  | internal (reason : String)
deriving DecidableEq, Inhabited

namespace AuthzError

def kind : AuthzError → ErrorKind
  | lookupFailed _ _ => .workspaceLookupFailed
  | serviceUnavailable _ _ => .relationshipServiceUnavailable
  | fetchFailed _ => .permissionFetchFailed
  | canceled => .canceled
  | internal _ => .internal

/-- Whether the relationship side as a whole gave no answer. -/
def isOutage : AuthzError → Bool
  | lookupFailed _ _ => true
  | serviceUnavailable _ _ => true
  | _ => false

def message : AuthzError → String
  | lookupFailed tenant reason => "workspace lookup failed for tenant '" ++ tenant ++ "': " ++ reason
  | serviceUnavailable failedChecks reason =>
    "relationship service unavailable (" ++ Text.Decimal.text failedChecks ++ " checks failed): " ++ reason
  | fetchFailed reason => "permission fetch failed: " ++ reason
  | canceled => "authorization canceled"
  | internal reason => "internal error: " ++ reason

end AuthzError

/-- Why the module cannot be set up or a call fails inside it. -/
inductive ModuleError where
  | authz (error : AuthzError)
  | invalidConfig (reason : String)
  | internal (reason : String)
deriving DecidableEq, Inhabited

namespace ModuleError

def message : ModuleError → String
  | authz error => error.message
  | invalidConfig reason => "invalid configuration: " ++ reason
  | internal reason => "internal error: " ++ reason

/-- The error a caller sees: faults of the set-up are internal. -/
def toAuthzError : ModuleError → AuthzError
  | authz error => error
  | invalidConfig reason => .internal ("invalid configuration: " ++ reason)
  | internal reason => .internal reason

end ModuleError

end ScopedAccess
