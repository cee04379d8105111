import ScopedAccess.AttributeSide
import ScopedAccess.CallContext
import ScopedAccess.Outcome
import ScopedAccess.RelationshipSide
import ScopedAccess.Rollout.Store
import ScopedAccess.Text.Quoted

/-!
# ScopedAccess.Engine

Authorization calls. The mode of the tenant decides which permission models are asked and which
one is enforced.

* `attributeSide` and `relationshipSide` ask one model each, and give up at an interruption.
* `resolve` combines them: one side alone, or both at a time with a comparison of the two. Only
  where the relationship side is enforced, its services gave no answer and the engine allows it,
  the attribute decision stands in for it.
* `authorize` adds what concerns the caller: an interrupted call is canceled, and an error is
  reported after everything else.
-/

namespace ScopedAccess

/-- What an engine is set up with. -/
structure Engine where
  catalog : Catalog
  relationships : RelationshipSide
  /-- Whether the attribute decision may stand in for a relationship outage. -/
  fallback : Bool
deriving DecidableEq

/-- The answers of all services during one call. -/
structure World where
  permissions : Reply (Except DirectoryFault (List Permission))
  relationships : RelationshipWorld

/-- A decision, and whether it stands in for the relationship side. -/
structure Resolved where
  decision : Decision
  fallbackApplied : Bool
deriving DecidableEq, Inhabited

/-- What a caller asked for, as it is named in log entries. -/
inductive Operation where
  | authorize
  | hasServiceAccess
deriving DecidableEq, Inhabited

def Operation.name : Operation → String
  | authorize => "authorize"
  | hasServiceAccess => "has_service_access"

namespace Engine

/-- The report on permissions that could not be read. -/
def malformedEvent (subject : String) (count : Nat) : Event :=
  .error .malformedPermissionData
    (Text.Decimal.text count ++ " unreadable attribute filters for subject " ++ subject)

/-- What an attribute resolution reports and logs. -/
def attributeReports (subject : String) (r : AttributeResolution) : List Effect :=
  (if r.malformed = 0 then [] else [.offer (malformedEvent subject r.malformed)]) ++
    if r.dropped.isEmpty then []
    else [.log ⟨.debug, "granted services outside the catalog were ignored",
      [("dropped", .text (Text.quotedList r.dropped))]⟩]

def fetchResult : Except DirectoryFault (List Permission) → Except AuthzError (List Permission)
  | .ok permissions => .ok permissions
  | .error fault => .error (.fetchFailed fault.message)

/-- Asks for the permissions of the subject. -/
def fetchPermissions (world : World) (request : Request) :
    Run Effect (Except AuthzError (List Permission)) :=
  (Run.emit (.fetch request.subject request.tenant)).andThen fun _ =>
    (Run.await world.permissions).map fetchResult

/-- What the attribute model concludes from the permissions. -/
def concludeAttribute (e : Engine) (request : Request) :
    Except AuthzError (List Permission) → Run Effect Side
  | .error error => .done (.error error)
  | .ok permissions =>
    let resolution := AttributeResolution.resolve permissions request.permission e.catalog
    (Run.emitAll (attributeReports request.subject resolution)).map fun _ =>
      .ok resolution.decision

def attributeSide (e : Engine) (world : World) (stop : Option Interruption) (request : Request) :
    Run Effect Side :=
  ((fetchPermissions world request).guarded stop (.error .canceled)).andThen
    (e.concludeAttribute request)

def checkEvent (f : CheckFailure) : Event :=
  .error .relationshipCheckFailed
    ("service=" ++ f.target.service.getD "<org>" ++ " relation=" ++ f.target.relation ++ ": " ++
      f.fault.message)

/-- What the relationship model concludes, with a report on each failed check. -/
def concludeRelationship : Except AuthzError RelationshipResolution → Run Effect Side
  | .error error => .done (.error error)
  | .ok resolution =>
    (Run.emitAll (resolution.failures.map fun f => .offer (checkEvent f))).map fun _ =>
      .ok resolution.decision

def relationshipSide (e : Engine) (world : World) (stop : Option Interruption)
    (request : Request) : Run Effect Side :=
  ((e.relationships.resolve world.relationships request.principal request.tenant
    e.catalog).guarded stop (.error .canceled)).andThen concludeRelationship

/-- Whether an error of the relationship side may be replaced. -/
def mayFallBack (e : Engine) (error : AuthzError) : Bool := e.fallback && error.isOutage

/-- Puts the attribute side in place of a relationship outage. If it failed too, the outage
stands, unless the call was interrupted meanwhile. -/
def fallBack (outage : AuthzError) : Side → Except AuthzError Resolved
  | .ok decision => .ok ⟨decision, true⟩
  | .error .canceled => .error .canceled
  | .error _ => .error outage

def fallBackLog (outage : AuthzError) : Side → List LogEntry
  | .ok _ =>
    [⟨.warn, "relationship side unavailable, enforcing attribute decision",
      [("error", .text outage.message)]⟩]
  | .error .canceled => []
  | .error error =>
    [⟨.warn, "attribute fallback unavailable, failing closed",
      [("error", .text outage.message), ("attribute_error", .text error.message)]⟩]

/-- A fallback, logged. -/
def runFallBack (outage : AuthzError) (side : Side) : Run Effect (Except AuthzError Resolved) :=
  (Run.emitAll ((fallBackLog outage side).map .log)).map fun _ => fallBack outage side

def resolveAttribute (e : Engine) (world : World) (stop : Option Interruption)
    (request : Request) : Run Effect (Except AuthzError Resolved) :=
  (e.attributeSide world stop request).map fun
    | .ok decision => .ok ⟨decision, false⟩
    | .error error => .error error

/-- The relationship side alone, with the attribute side asked only to stand in for it. -/
def resolveRelationship (e : Engine) (world : World) (stop : Option Interruption)
    (request : Request) : Run Effect (Except AuthzError Resolved) :=
  (e.relationshipSide world stop request).andThenAt fun elapsed side =>
    match side with
    | .ok decision => .done (.ok ⟨decision, false⟩)
    | .error error =>
      if e.mayFallBack error then
        (e.attributeSide world (stop.map (·.after elapsed)) request).andThen (runFallBack error)
      else .done (.error error)

/-- What both sides come to: they are compared, and the authoritative one counts. There is nothing
to compare if the call was interrupted. -/
def concludeBoth (e : Engine) (request : Request) (authoritative : Source) :
    Side × Side → Run Effect (Except AuthzError Resolved)
  | (attributeSide, relationshipSide) =>
    if Side.isCanceled attributeSide || Side.isCanceled relationshipSide then .done (.error .canceled)
    else
      (Run.emit (.offer (.comparison
        (.ofSides request attributeSide relationshipSide authoritative)))).andThen fun _ =>
          match enforced attributeSide relationshipSide authoritative with
          | .ok decision => .done (.ok ⟨decision, false⟩)
          | .error error =>
            if authoritative = .relationship ∧ e.mayFallBack error then
              runFallBack error attributeSide
            else .done (.error error)

def resolveBoth (e : Engine) (world : World) (stop : Option Interruption) (request : Request)
    (authoritative : Source) : Run Effect (Except AuthzError Resolved) :=
  ((e.attributeSide world stop request).beside (e.relationshipSide world stop request)).andThen
    (e.concludeBoth request authoritative)

/-- The decision of a request in a mode. -/
def resolve (e : Engine) (world : World) (stop : Option Interruption) (request : Request)
    (mode : Mode) : Run Effect (Except AuthzError Resolved) :=
  match mode with
  | .attributeOnly => e.resolveAttribute world stop request
  | .relationshipOnly => e.resolveRelationship world stop request
  | .dualValidate => e.resolveBoth world stop request mode.authoritative
  | .dualEnforceNew => e.resolveBoth world stop request mode.authoritative

/-- What is logged about the mode of a call. -/
def modeLog (request : Request) (mode : Mode) : LogEntry :=
  ⟨.trace, "selected authorization mode",
    [("subject_id", .text request.subject), ("tenant_id", .text request.tenant),
      ("mode", .text mode.name)]⟩

def resolvedLog (r : Resolved) : LogEntry :=
  ⟨.debug, "authorization resolved",
    [("unrestricted", .flag r.decision.isUnrestricted),
      ("fallback_applied", .flag r.fallbackApplied)]⟩

/-- What is logged about an error. A canceled call is the caller's own doing. -/
def errorLog (operation : Operation) : AuthzError → LogEntry
  | .canceled =>
    ⟨.debug, "run_authz call canceled", [("operation", .text operation.name)]⟩
  | error =>
    ⟨.warn, "run_authz could not determine access",
      [("operation", .text operation.name), ("kind", .text error.kind.name),
        ("error", .text error.message)]⟩

/-- The end of a call. -/
def finish (operation : Operation) (mode : Mode) (version : UInt64) :
    Except AuthzError Resolved → Run Effect (Except AuthzError Outcome)
  | .ok r =>
    (Run.emit (.log (resolvedLog r))).map fun _ =>
      .ok ⟨r.decision, mode, r.fallbackApplied, version⟩
  | .error error =>
    (Run.emitAll [.offer (.error error.kind error.message), .log (errorLog operation error)]).map
      fun _ => .error error

/-- An authorization call under the policy that is current when it begins. -/
def authorize (e : Engine) (world : World) (policy : PolicySnapshot) (context : CallContext)
    (request : Request) (operation : Operation) : Run Effect (Except AuthzError Outcome) :=
  let mode := policy.policy.select request.tenant
  let stop := context.interruption?
  (Run.emit (.log (modeLog request mode))).andThen fun _ =>
    ((e.resolve world stop request mode).guarded stop (.error .canceled)).andThen
      (finish operation mode policy.version)

/-- Whether an outcome opens a service. -/
def admits (e : Engine) (service : String) : Except AuthzError Outcome → Except AuthzError Bool
  | .ok outcome => .ok (outcome.decision.admits service e.catalog)
  | .error error => .error error

/-- A call that asks about one service. -/
def hasServiceAccess (e : Engine) (world : World) (policy : PolicySnapshot) (context : CallContext)
    (request : Request) (service : String) : Run Effect (Except AuthzError Bool) :=
  (e.authorize world policy context request .hasServiceAccess).map (e.admits service)

end Engine

end ScopedAccess
