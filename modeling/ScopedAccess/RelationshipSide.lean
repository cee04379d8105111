import ScopedAccess.Duration
import ScopedAccess.Effect
import ScopedAccess.RelationNaming
import ScopedAccess.Timeline

/-!
# ScopedAccess.RelationshipSide

The decision of the relationship model: one lookup of the tenant's workspace, then one check for
the organization, if it has a relation, and one for each service of the catalog, all at a time.

* `RelationshipResolution.ofAnswers` is the conclusion from the answers. The organization's grant
  leaves access unrestricted; otherwise a service is visible if its own check allows it. A check
  that fails allows nothing, but if the checks of all services fail there is no decision.
* `RelationshipSide.resolve` is the work: a lookup or check that takes longer than its patience is
  given up and counts as failed.
-/

namespace ScopedAccess

/-- Where the workspace of a tenant comes from. -/
inductive WorkspaceAnswer where
  /-- It is remembered from an earlier lookup. -/
  | remembered (workspace : Workspace)
  /-- It has to be asked for. -/
  | asked (reply : Reply (Except LookupFault Workspace))
deriving Inhabited

/-- A check to be made: for a service, or for the organization. -/
structure CheckTarget where
  service : Option String
  relation : String
deriving DecidableEq, Inhabited

/-- A check and its answer. -/
structure CheckAnswer where
  target : CheckTarget
  answer : Except CheckFault Bool

/-- A check without answer. -/
structure CheckFailure where
  target : CheckTarget
  fault : CheckFault
deriving DecidableEq, Inhabited

namespace CheckAnswer

/-- Whether the check was answered and allows access. -/
def allows (a : CheckAnswer) : Bool :=
  match a.answer with
  | .ok allowed => allowed
  | .error _ => false

/-- The failure of a check that failed. -/
def failure? (a : CheckAnswer) : Option CheckFailure :=
  match a.answer with
  | .ok _ => none
  | .error fault => some ⟨a.target, fault⟩

def failed (a : CheckAnswer) : Bool := a.failure?.isSome

/-- The service of a check that allows access to it. -/
def grant? (a : CheckAnswer) : Option String :=
  if a.allows then a.target.service else none

/-- Whether the check was for the organization. -/
def isForOrg (a : CheckAnswer) : Bool := a.target.service.isNone

def logEntry (a : CheckAnswer) : LogEntry :=
  let relation := ("relation", LogValue.text a.target.relation)
  match a.target.service, a.answer with
  | none, .ok allowed => ⟨.debug, "org-level check", [relation, ("allowed", .flag allowed)]⟩
  | none, .error fault =>
    ⟨.debug, "org-level check failed", [relation, ("error", .text fault.message)]⟩
  | some service, .ok allowed =>
    ⟨.debug, "service check", [("service", .text service), relation, ("allowed", .flag allowed)]⟩
  | some service, .error fault =>
    ⟨.debug, "service check failed",
      [("service", .text service), relation, ("error", .text fault.message)]⟩

end CheckAnswer

/-- A decision, and the failed checks it was made in spite of. -/
structure RelationshipResolution where
  decision : Decision
  failures : List CheckFailure
deriving DecidableEq, Inhabited

namespace RelationshipResolution

/-- Failed checks, in the order of the answers. -/
def failuresOf (answers : List CheckAnswer) : List CheckFailure :=
  answers.filterMap CheckAnswer.failure?

def ofServices (answers : List CheckAnswer) : List CheckAnswer :=
  answers.filter fun a => !a.isForOrg

/-- Whether the organization was granted access. -/
def orgAllowed (answers : List CheckAnswer) : Bool :=
  answers.any fun a => a.isForOrg && a.allows

/-- Whether there were checks for services and all of them failed. -/
def allServicesFailed (answers : List CheckAnswer) : Bool :=
  !(ofServices answers).isEmpty && (ofServices answers).all CheckAnswer.failed

/-- The text of the first failure of a service's check. -/
def firstReason (answers : List CheckAnswer) : String :=
  match failuresOf (ofServices answers) with
  | [] => ""
  | failure :: _ => failure.fault.message

def ofAnswers (answers : List CheckAnswer) : Except AuthzError RelationshipResolution :=
  if orgAllowed answers then .ok ⟨.unrestricted .relationship, failuresOf answers⟩
  else if allServicesFailed answers then
    .error (.serviceUnavailable (failuresOf answers).length (firstReason answers))
  else
    .ok ⟨.restricted .relationship (.ofList (answers.filterMap CheckAnswer.grant?))
      .noRelationshipGrant, failuresOf answers⟩

/-- What is logged about the failed checks as a whole. -/
def failureLog (answers : List CheckAnswer) : List LogEntry :=
  let count := ("failed_checks", LogValue.number (failuresOf answers).length)
  if (failuresOf answers).isEmpty then []
  else if orgAllowed answers then
    [⟨.debug, "org-level grant overrides failed service checks", [count]⟩]
  else if allServicesFailed answers then
    [⟨.warn, "every service check failed", [count, ("reason", .text (firstReason answers))]⟩]
  else
    [⟨.warn, "relationship resolution degraded, failed checks count as deny",
      [count, ("issued_checks", .number answers.length)]⟩]

end RelationshipResolution

namespace WorkspaceAnswer

/-- Asks for the workspace of a tenant. -/
def ask (tenant : String) (reply : Reply (Except LookupFault Workspace)) :
    Run Effect (Except LookupFault Workspace) :=
  (Run.emit (.lookup tenant)).andThen fun _ =>
    (Run.await reply).andThen fun
      | .ok workspace => (Run.emit (.found tenant workspace)).map fun _ => .ok workspace
      | .error fault => .done (.error fault)

/-- Obtains the workspace of a tenant: nobody is asked for one that is remembered. -/
def obtain (tenant : String) : WorkspaceAnswer → Run Effect (Except LookupFault Workspace)
  | .remembered workspace => .done (.ok workspace)
  | .asked reply => ask tenant reply

end WorkspaceAnswer

/-- How the relationship service is asked. -/
structure RelationshipSide where
  naming : RelationNaming
  lookupPatience : Duration
  checkPatience : Duration
deriving DecidableEq

/-- The answers of the services a relationship resolution asks. -/
structure RelationshipWorld where
  workspace : WorkspaceAnswer
  check : CheckTarget → CheckQuery → Reply (Except CheckFault Bool)

namespace RelationshipSide

/-- The checks of a resolution: the organization's first, then the services' in catalog order. -/
def targets (s : RelationshipSide) (catalog : Catalog) : List CheckTarget :=
  (s.naming.orgRelation.map fun relation => ⟨none, relation⟩).toList ++
    catalog.ids.map fun id => ⟨some id, s.naming.relationFor id⟩

def lookupResult (tenant : String) : Except LookupFault Workspace → Except AuthzError Workspace
  | .ok workspace => .ok workspace
  | .error fault => .error (.lookupFailed tenant fault.message)

/-- The error of a lookup that took too long. -/
def lookupTimeout (s : RelationshipSide) (tenant : String) : AuthzError :=
  .lookupFailed tenant
    ("timed out after " ++ Text.Decimal.text s.lookupPatience.wholeMillis ++ "ms")

/-- The workspace of a tenant, or why there is none. -/
def findWorkspace (s : RelationshipSide) (world : RelationshipWorld) (tenant : String) :
    Run Effect (Except AuthzError Workspace) :=
  ((world.workspace.obtain tenant).map (lookupResult tenant)).within s.lookupPatience.ticks
    (.error (s.lookupTimeout tenant))

def runCheck (s : RelationshipSide) (world : RelationshipWorld) (principal : Principal)
    (workspace : Workspace) (target : CheckTarget) : Run Effect CheckAnswer :=
  let query : CheckQuery := ⟨workspace, principal, target.relation⟩
  (((Run.emit (.check query)).andThen fun _ => Run.await (world.check target query)).within
    s.checkPatience.ticks (.error (.timedOut s.checkPatience.wholeMillis))).map fun answer =>
      ⟨target, answer⟩

/-- All checks of a resolution, and what is concluded from them. -/
def runChecks (s : RelationshipSide) (world : RelationshipWorld) (principal : Principal)
    (catalog : Catalog) (workspace : Workspace) :
    Run Effect (Except AuthzError RelationshipResolution) :=
  (Run.all ((s.targets catalog).map (s.runCheck world principal workspace))).andThen fun answers =>
    (Run.emitAll ((answers.map CheckAnswer.logEntry ++
        RelationshipResolution.failureLog answers).map .log)).map fun _ =>
      RelationshipResolution.ofAnswers answers

/-- Resolves what a principal may see in a tenant. -/
def resolve (s : RelationshipSide) (world : RelationshipWorld) (principal : Principal)
    (tenant : String) (catalog : Catalog) : Run Effect (Except AuthzError RelationshipResolution) :=
  (s.findWorkspace world tenant).andThen fun
    | .ok workspace => s.runChecks world principal catalog workspace
    | .error e => .done (.error e)

end RelationshipSide

end ScopedAccess
