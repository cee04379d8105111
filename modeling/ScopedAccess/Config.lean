import ScopedAccess.Catalog
import ScopedAccess.Duration
import ScopedAccess.Fault
import ScopedAccess.RelationNaming
import ScopedAccess.Rollout.Policy

/-!
# ScopedAccess.Config

The settings of the library, their defaults, and what makes them consistent.
-/

namespace ScopedAccess

/-- All settings. -/
structure Config where
  mode : Mode
  targeting : Targeting
  /-- Whether the attribute decision may stand in for a relationship outage. -/
  fallback : Bool
  lookupPatience : Duration
  checkPatience : Duration
  catalog : Catalog
  /-- The permission that counts where a request names none. -/
  permission : String
  naming : RelationNaming
  refreshInterval : Duration
  /-- How long workspaces are remembered; zero is not at all. -/
  cacheLifetime : Duration
  queueCapacity : UInt64
deriving DecidableEq

namespace Config

/-- The services that can be granted where none are configured. -/
def standardServices : List String :=
  ["remediations", "config_manager", "vulnerability", "advisor", "compliance", "drift", "policies",
    "resource_optimization"]

/-- The settings where nothing is configured. -/
def standard : Config where
  mode := .attributeOnly
  targeting := .everyone
  fallback := false
  lookupPatience := .ofSeconds 2
  checkPatience := .ofSeconds 1
  catalog := .ofIds standardServices
  permission := "playbook-dispatcher:run:read"
  naming := .standard
  refreshInterval := .ofSeconds 30
  cacheLifetime := .ofSeconds 1800
  queueCapacity := 1024

instance : Inhabited Config := ⟨standard⟩

/-- The policy that is in force first. -/
def policy (c : Config) : RolloutPolicy := ⟨c.mode, c.targeting⟩

/-- Whether there is an organization relation that is blank. -/
def hasBlankOrgRelation (c : Config) : Bool :=
  match c.naming.orgRelation with
  | some relation => Text.isBlankText relation
  | none => false

/-- A reason against the first setting that is inconsistent. -/
def objection? (c : Config) : Option String :=
  if c.catalog.isEmpty then some "service_catalog must contain at least one service"
  else if Text.isBlankText c.permission then some "required_permission must not be blank"
  else if !Text.contains serviceHole c.naming.template then
    some ("relations.template must contain " ++ serviceHole)
  else if c.hasBlankOrgRelation then some "relations.org_relation must not be blank when set"
  else if c.lookupPatience.isZero then some "workspace_lookup_timeout must be positive"
  else if c.checkPatience.isZero then some "check_timeout must be positive"
  else if c.refreshInterval.isZero then some "policy_refresh_interval must be positive"
  else if c.queueCapacity = 0 then some "event_queue_capacity must be positive"
  else
    match c.policy.validate with
    | .ok _ => none
    | .error fault => some fault.message

/-- Refuses settings that are inconsistent. -/
def validate (c : Config) : Except ModuleError Unit :=
  match c.objection? with
  | none => .ok ()
  | some reason => .error (.invalidConfig reason)

end Config

end ScopedAccess
