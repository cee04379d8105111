import ScopedAccess.Json.Record

/-!
# ScopedAccess.Subject

Who asks and what is asked of the relationship service: a request of a subject in a tenant, and a
check whether a principal holds a relation on a workspace.
-/

namespace ScopedAccess

/-- Kind of subject. -/
inductive SubjectType where
  | user
  | serviceAccount
deriving DecidableEq, Inhabited

namespace SubjectType

def name : SubjectType → String
  | .user => "user"
  | .serviceAccount => "service_account"

def ofJson? (p : Json.Place) : Json → Option SubjectType :=
  Json.readChoice p [("user", .user), ("service_account", .serviceAccount)]

def toJson (t : SubjectType) : Json := .str t.name

end SubjectType

/-- Workspace of the relationship service. -/
structure Workspace where
  id : String
deriving DecidableEq, Inhabited

namespace Workspace

def ofJson? : Json → Option Workspace
  | .str id => some ⟨id⟩
  | _ => none

def toJson (w : Workspace) : Json := .str w.id

end Workspace

/-- Subject of a check. -/
structure Principal where
  kind : SubjectType
  id : String
deriving DecidableEq

namespace Principal

def ofJson? (v : Json) : Option Principal :=
  match Json.openRecord? .message ["kind", "id"] v with
  | none => none
  | some f =>
    match Json.required f "kind" (SubjectType.ofJson? .message),
      Json.required f "id" (Json.readStr .message) with
    | some kind, some id => some ⟨kind, id⟩
    | _, _ => none

def toJson (p : Principal) : Json := .obj [("kind", p.kind.toJson), ("id", .str p.id)]

end Principal

/-- The question whether a principal holds a relation on a workspace. -/
structure CheckQuery where
  workspace : Workspace
  principal : Principal
  relation : String
deriving DecidableEq

namespace CheckQuery

def ofJson? (v : Json) : Option CheckQuery :=
  match Json.openRecord? .message ["workspace", "principal", "relation"] v with
  | none => none
  | some f =>
    match Json.required f "workspace" Workspace.ofJson?,
      Json.required f "principal" Principal.ofJson?,
      Json.required f "relation" (Json.readStr .message) with
    | some workspace, some principal, some relation => some ⟨workspace, principal, relation⟩
    | _, _, _ => none

def toJson (q : CheckQuery) : Json :=
  .obj [("workspace", q.workspace.toJson), ("principal", q.principal.toJson),
    ("relation", .str q.relation)]

end CheckQuery

/-- What an authorization call asks: the services whose runs a subject may read in a tenant. -/
structure Request where
  subject : String
  subjectType : SubjectType
  tenant : String
  permission : String
deriving DecidableEq

namespace Request

def principal (r : Request) : Principal := ⟨r.subjectType, r.subject⟩

/-- Reads a request. A subject is a user unless the request says otherwise. -/
def ofJson? (v : Json) : Option Request :=
  match Json.openRecord? .message
    ["subject_id", "subject_type", "tenant_id", "required_permission"] v with
  | none => none
  | some f =>
    match Json.required f "subject_id" (Json.readStr .message),
      Json.defaulted f "subject_type" (SubjectType.ofJson? .message) .user,
      Json.required f "tenant_id" (Json.readStr .message),
      Json.required f "required_permission" (Json.readStr .message) with
    | some subject, some subjectType, some tenant, some permission =>
      some ⟨subject, subjectType, tenant, permission⟩
    | _, _, _, _ => none

def toJson (r : Request) : Json :=
  .obj [("subject_id", .str r.subject), ("subject_type", r.subjectType.toJson),
    ("tenant_id", .str r.tenant), ("required_permission", .str r.permission)]

end Request

end ScopedAccess
