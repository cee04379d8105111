import ScopedAccess.Config
import ScopedAccess.EventQueue
import ScopedAccess.Rollout.Refresher
import ScopedAccess.Services

/-!
# ScopedAccess.Instance

The library at work: an engine, the policy in force with its refresher, the workspaces remembered,
the queue of events, and a clock.

* `Instance.start` sets it up from settings that are consistent.
* `Instance.play` carries out a piece of work: its effects happen at their instants, and between
  the instants the background tasks run. At one instant the work comes first, then the refresher,
  then the queue.
* `Instance.authorize` and `Instance.hasServiceAccess` are the calls, `Instance.shutdown` ends the
  background tasks. The parts can be used by themselves too: `lookup`, `invalidate`, `refresh`,
  `spawn`, `replace`.
-/

namespace ScopedAccess

/-- What can be seen of an instance from outside. -/
inductive Observation where
  /-- A service was asked, on behalf of a call or of nobody. -/
  | asked (context : CallContext) (effect : Effect)
  /-- The sink received an event. -/
  | delivered (event : Event)
  | logged (entry : LogEntry)
deriving DecidableEq, Inhabited

/-- The library at work. -/
structure Instance where
  engine : Engine
  services : Services
  rollout : Rollout
  /-- Workspaces are remembered unless their lifetime is zero. -/
  cache : Option WorkspaceCache
  queue : EventQueue
  /-- Whether events are logged because nobody else takes them. -/
  logsEvents : Bool
  now : Nat
  /-- What has been seen so far, in order. -/
  seen : List Observation

namespace Config

def engine (c : Config) : Engine :=
  ⟨c.catalog, ⟨c.naming, c.lookupPatience, c.checkPatience⟩, c.fallback⟩

/-- The workspaces remembered at first. -/
def cache (c : Config) : Option WorkspaceCache :=
  if c.cacheLifetime.isZero then none else some (.create c.cacheLifetime)

end Config

namespace Instance

def see (i : Instance) (os : List Observation) : Instance := { i with seen := i.seen ++ os }

/-- What can be seen of an event that has been delivered. -/
def arrival (i : Instance) (e : Event) : Observation :=
  if i.logsEvents then .logged e.logEntry else .delivered e

def act (i : Instance) (context : CallContext) (e : Effect) : Instance :=
  match e with
  | .found tenant workspace =>
    { i with cache := i.cache.map fun (c : WorkspaceCache) => c.store i.now tenant workspace }
  | .offer event => { i with queue := i.queue.offer event }
  | .log entry => i.see [.logged entry]
  | .check query => i.see (.asked context e :: (i.services.checkLog query).map .logged)
  | _ => i.see [.asked context e]

/-- Carries out the effects of the refresher. -/
def actAll (i : Instance) (es : List Effect) : Instance :=
  es.foldl (fun i e => i.act .background e) i

def deliver (i : Instance) : Instance :=
  let (queue, events) := i.queue.settle
  { i with queue := queue }.see (events.map i.arrival)

/-- Runs the refresher up to an instant. -/
def refreshUntil (i : Instance) (target : Nat) : Instance :=
  let (rollout, effects) := i.rollout.runUntil i.now target
  { i with rollout := rollout }.actAll effects

/-- Runs the background tasks until they wait. -/
def settle (i : Instance) : Instance := (i.refreshUntil i.now).deliver

/-- Lets time pass up to an instant, and the background tasks run at and before it. -/
def advanceTo (i : Instance) (target : Nat) : Instance :=
  { i.settle.refreshUntil target with now := max i.now target }.settle

/-- Lets time pass. -/
def advance (i : Instance) (millis : Nat) : Instance := i.advanceTo (i.now + millis)

/-- Moves to an instant of a piece of work: the background tasks run before it, not at it. -/
def moveTo (i : Instance) (instant : Nat) : Instance :=
  if instant ≤ i.now then i
  else { i.settle.refreshUntil (instant - 1) with now := instant }

/-- Carries out timed effects, the instants of which count from `start`. -/
def playTrace (i : Instance) (context : CallContext) (start : Nat) (trace : List (Nat × Effect)) :
    Instance :=
  trace.foldl (fun i (t, e) => (i.moveTo (start + t)).act context e) i

/-- Carries out a piece of work up to its end. -/
def playToEnd (i : Instance) (context : CallContext) (r : Run Effect α) : Instance :=
  let played := i.playTrace context i.now r.trace
  match r.ending with
  | none => played
  | some (t, _) => played.moveTo (i.now + t)

/-- Carries out a piece of work, and lets the background tasks run after it. -/
def play (i : Instance) (context : CallContext) (r : Run Effect α) : Instance × Option (Nat × α) :=
  ((i.playToEnd context r).settle, r.ending)

/-- The workspace remembered for a tenant. -/
def remembered (i : Instance) (tenant : String) : Option Workspace :=
  match i.cache with
  | some c => c.find? i.now tenant
  | none => none

/-- The world of a call that begins now. -/
def world (i : Instance) (request : Request) : World :=
  i.services.world (i.remembered request.tenant) request

/-- An authorization call: the instance after it, how long it took, and what it returned. -/
def authorize (i : Instance) (context : CallContext) (request : Request) :
    Instance × Option (Nat × Except AuthzError Outcome) :=
  i.play context
    (i.engine.authorize (i.world request) i.rollout.snapshot context request .authorize)

/-- A call that asks about one service. -/
def hasServiceAccess (i : Instance) (context : CallContext) (request : Request)
    (service : String) : Instance × Option (Nat × Except AuthzError Bool) :=
  i.play context
    (i.engine.hasServiceAccess (i.world request) i.rollout.snapshot context request service)

/-- Looks the workspace of a tenant up. -/
def lookup (i : Instance) (context : CallContext) (tenant : String) :
    Instance × Option (Nat × Except LookupFault Workspace) :=
  i.play context ((i.services.workspaceAnswer (i.remembered tenant) tenant).obtain tenant)

def invalidate (i : Instance) (tenant : String) : Instance :=
  { i with cache := i.cache.map fun (c : WorkspaceCache) => c.invalidate tenant }.settle

/-- Fetches a policy and installs it if it is valid. A fixed policy is at hand. -/
def refresh (i : Instance) (fixed : Option RolloutPolicy) :
    Instance × Option (Except PolicyFault UInt64) :=
  let (reply, rollout, asked) := i.rollout.fetch fixed
  let i := ({ i with rollout := rollout }.actAll asked).playToEnd .background (Run.await reply)
  match reply with
  | .silent => (i.settle, none)
  | .after _ fetched =>
    let (rollout, effects) := i.rollout.accept fetched
    (({ i with rollout := rollout }.actAll effects).settle,
      some (i.rollout.snapshot.refreshResult fetched))

def spawn (i : Instance) (interval : Duration) (fixed : Option RolloutPolicy) : Instance :=
  { i with rollout := i.rollout.spawn interval fixed i.now }.settle

def cancelRefresher (i : Instance) : Instance :=
  { i with rollout := i.rollout.cancel }.settle

/-- Installs a policy. -/
def replace (i : Instance) (policy : RolloutPolicy) : Instance :=
  { i with rollout := i.rollout.replace policy }.settle

/-- What is logged when an instance begins to start. -/
def beginLog (c : Config) : LogEntry :=
  ⟨.info, "Initializing run-authz module",
    [("catalog_size", .number c.catalog.size), ("fallback", .flag c.fallback)]⟩

/-- What is logged when an instance has started. -/
def startedLog : LogEntry := ⟨.info, "run-authz module initialized successfully", []⟩

/-- What is logged when an instance has stopped. -/
def stoppedLog : LogEntry := ⟨.info, "run-authz module stopped", []⟩

/-- The rollout of some settings. Without a source the policy is the configured one for good. -/
def rolloutOf (c : Config) (source : Option PolicySource) : Rollout :=
  match source with
  | none => .create c.policy ⟨[]⟩
  | some source => (Rollout.create c.policy source).spawn c.refreshInterval none 0

/-- Sets up an instance from settings that are consistent. -/
def start (c : Config) (services : Services) (source : Option PolicySource) (logsEvents : Bool) :
    Except ModuleError Instance :=
  match c.validate with
  | .error e => .error e
  | .ok _ =>
    .ok { engine := c.engine, services, rollout := rolloutOf c source, cache := c.cache,
          queue := .create c.queueCapacity.toNat .running, logsEvents, now := 0,
          seen := [.logged (beginLog c), .logged startedLog] : Instance }.settle

/-- Why an instance cannot be set up where background tasks cannot run. -/
def noRuntime (c : Config) : ModuleError :=
  match c.validate with
  | .error e => e
  | .ok _ =>
    .internal ("run-authz needs a tokio runtime: there is no reactor running, must be called " ++
      "from the context of a Tokio 1.x runtime")

/-- Ends the background tasks. What is queued is still delivered. -/
def shutdown (i : Instance) : Instance :=
  { i with rollout := i.rollout.cancel, queue := i.queue.cancel }.settle.see [.logged stoppedLog]

end Instance

end ScopedAccess
