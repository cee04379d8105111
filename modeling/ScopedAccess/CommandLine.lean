import ScopedAccess.Config.Load
import ScopedAccess.Directory.Codec
import ScopedAccess.Instance
import ScopedAccess.Query

/-!
# ScopedAccess.CommandLine

The program that evaluates one request against a fixed directory.

* `Options.parse?` reads its arguments from left to right. The first fault counts, and so does the
  first question for help or the version.
* `CommandLine.run` loads the settings and the directory, makes the call and reports the outcome.
-/

namespace ScopedAccess

/-- What the arguments ask for. Options that were not given are missing. -/
structure Options where
  config : Option String
  subject : Option String
  tenant : Option String
  permission : Option String
  mode : Option Mode
  service : Option String
  timeout : Option Duration
  serviceAccount : Bool
  jsonLogs : Bool
deriving DecidableEq, Inhabited

/-- A request as the arguments make it. -/
structure Invocation where
  config : String
  subject : String
  tenant : String
  permission : Option String
  mode : Option Mode
  service : Option String
  timeout : Duration
  serviceAccount : Bool
  jsonLogs : Bool
deriving DecidableEq

/-- What the arguments mean. -/
inductive Parsed where
  | help
  | version
  | misuse
  | invoke (invocation : Invocation)
deriving DecidableEq

namespace Options

def empty : Options := ⟨none, none, none, none, none, none, none, false, false⟩

def valued : List String :=
  ["config", "subject", "tenant", "permission", "mode", "service", "timeout"]

/-- Sets an option that was not set before. -/
def once (old : Option α) (v : α) (set : Option α → Options) : Option Options :=
  match old with
  | none => some (set (some v))
  | some _ => none

def set (o : Options) (name value : String) : Option Options :=
  match name with
  | "config" => if value.isEmpty then none else once o.config value fun v => { o with config := v }
  | "subject" => once o.subject value fun v => { o with subject := v }
  | "tenant" => once o.tenant value fun v => { o with tenant := v }
  | "permission" => once o.permission value fun v => { o with permission := v }
  | "service" => once o.service value fun v => { o with service := v }
  | "mode" =>
    match Mode.parse value with
    | .ok mode => once o.mode mode fun v => { o with mode := v }
    | .error _ => none
  | "timeout" =>
    match Duration.ofText? value with
    | some timeout => once o.timeout timeout fun v => { o with timeout := v }
    | none => none
  | _ => none

/-- Sets a flag that was not set before. -/
def setFlag (o : Options) (name : String) : Option Options :=
  match name with
  | "service-account" => if o.serviceAccount then none else some { o with serviceAccount := true }
  | "json-logs" => if o.jsonLogs then none else some { o with jsonLogs := true }
  | _ => none

/-- Whether an argument is an option rather than a value. A lone dash is a value. -/
def isOption (arg : String) : Bool :=
  match arg.toList with
  | '-' :: _ :: _ => true
  | _ => false

/-- The name of a long option, and the value attached to it. -/
def splitLong (body : List Char) : String × Option String :=
  let name := body.takeWhile fun c => c != '='
  match body.dropWhile fun c => c != '=' with
  | _ :: value => (String.ofList name, some (String.ofList value))
  | [] => (String.ofList name, none)

/-- The invocation of all options, if the required ones are there. -/
def finish (o : Options) : Parsed :=
  match o.subject, o.tenant with
  | some subject, some tenant =>
    .invoke {
      config := o.config.getD "run-authz.yaml", subject, tenant, permission := o.permission,
      mode := o.mode, service := o.service, timeout := o.timeout.getD (.ofSeconds 5),
      serviceAccount := o.serviceAccount, jsonLogs := o.jsonLogs }
  | _, _ => .misuse

/-- The value attached to a short option. -/
def attached : List Char → String
  | '=' :: value => String.ofList value
  | value => String.ofList value

/-- Reads arguments after the options `o`. -/
def parseFrom (o : Options) : List String → Parsed
  | [] => o.finish
  | arg :: rest =>
    match arg.toList with
    | ['-', '-'] => if rest.isEmpty then o.finish else .misuse
    | '-' :: '-' :: body =>
      match splitLong body with
      | (name, some value) =>
        match o.set name value with
        | some o => parseFrom o rest
        | none => .misuse
      | (name, none) =>
        if valued.contains name then
          match rest with
          | value :: rest =>
            if isOption value then .misuse
            else
              match o.set name value with
              | some o => parseFrom o rest
              | none => .misuse
          | [] => .misuse
        else if name = "help" then .help
        else if name = "version" then .version
        else
          match o.setFlag name with
          | some o => parseFrom o rest
          | none => .misuse
    | ['-', 'c'] =>
      match rest with
      | value :: rest =>
        if isOption value then .misuse
        else
          match o.set "config" value with
          | some o => parseFrom o rest
          | none => .misuse
      | [] => .misuse
    | '-' :: 'c' :: value =>
      match o.set "config" (attached value) with
      | some o => parseFrom o rest
      | none => .misuse
    | '-' :: 'h' :: _ => .help
    | '-' :: 'V' :: _ => .version
    | _ => .misuse

def parse (args : List String) : Parsed := parseFrom empty args

end Options

/-- What the program found out about a request. -/
structure AccessReport where
  filter : ServiceFilter
  /-- The service asked about, and whether its runs are visible. -/
  service : Option (String × Bool)
  outcome : Outcome
deriving DecidableEq

/-- Why the program has nothing to report. -/
inductive RunError where
  | settings
  | directory
  | setUp (error : ModuleError)
  | call (error : AuthzError)
deriving DecidableEq

namespace RunError

def message : RunError → String
  | settings => "loading " ++ settingsSection ++ " section"
  | directory => "loading static_plugin section"
  | setUp error => error.message
  | call error => error.message

end RunError

namespace AccessReport

def ofOutcome (catalog : Catalog) (service : Option String) (outcome : Outcome) : AccessReport where
  filter := .ofDecision outcome.decision
  service := service.map fun s => (s, outcome.decision.admits s catalog)
  outcome := outcome

/-- Writes whether runs of a service are visible. -/
def serviceToJson : Option (String × Bool) → Json
  | some (service, allowed) => .obj [("allowed", .bool allowed), ("service", .str service)]
  | none => .null

def constraintToJson : Option Constraint → Json
  | some c => c.toJson
  | none => .null

def members (r : AccessReport) : List (String × Json) :=
  [("constraint", constraintToJson r.filter.constraint?), ("deny_all", .bool r.filter.isDenyAll),
    ("outcome", r.outcome.toJson), ("service_access", serviceToJson r.service)]

end AccessReport

namespace CommandLine

/-- The section of the directory in a file. -/
def directorySection : String := "static_plugin"

def loadDirectory (reader : FileReader) (s : ConfigSources) : Except RunError Directory :=
  match s.section? reader directorySection with
  | none => .ok .standard
  | some v =>
    match Directory.ofJson? .settings v with
    | some d => .ok d
    | none => .error .directory

/-- The settings of an invocation: a mode that is given applies to every tenant. -/
def loadConfig (reader : FileReader) (v : Invocation) (s : ConfigSources) :
    Except RunError Config :=
  match Config.load reader s with
  | .error _ => .error .settings
  | .ok c =>
    match v.mode with
    | some mode => .ok { c with mode := mode, targeting := .everyone }
    | none => .ok c

def request (v : Invocation) (c : Config) : Request where
  subject := v.subject
  subjectType := if v.serviceAccount then .serviceAccount else .user
  tenant := v.tenant
  permission := v.permission.getD c.permission

/-- When the call has to be over, in milliseconds after its beginning. What is shorter than
a microsecond is over before the call is made. -/
def deadline (timeout : Duration) : Nat :=
  if timeout.nanos < 1000 then 0 else timeout.ticks

def call (v : Invocation) (requestId : String) (c : Config) (d : Directory) :
    Except RunError AccessReport :=
  match Instance.start c d.services none true with
  | .error e => .error (.setUp e)
  | .ok i =>
    let context : CallContext := ⟨some requestId, none, none, some (deadline v.timeout)⟩
    match (i.authorize context (request v c)).2 with
    | some (_, .ok outcome) => .ok (.ofOutcome c.catalog v.service outcome)
    | some (_, .error e) => .error (.call e)
    | none => .error (.call .canceled)

def run (reader : FileReader) (v : Invocation) (requestId : String) (s : ConfigSources) :
    Except RunError AccessReport :=
  match loadConfig reader v s with
  | .error e => .error e
  | .ok c =>
    match loadDirectory reader s with
    | .error e => .error e
    | .ok d => call v requestId c d

end CommandLine

end ScopedAccess
