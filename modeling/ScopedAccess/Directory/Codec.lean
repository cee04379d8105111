import ScopedAccess.Directory
import ScopedAccess.Permission.Codec

/-!
# ScopedAccess.Directory.Codec

Reading a directory. Everything may be missing except the parts of a grant; names that are not
known are refused at every level.
-/

namespace ScopedAccess

def CheckMode.ofJson? (p : Json.Place) : Json → Option CheckMode :=
  Json.readChoice p [("allow_all", .allowAll), ("deny_all", .denyAll), ("grants", .grants)]

/-- Reads a grant. A subject is a user unless the grant says otherwise. -/
def Grant.ofJson? (p : Json.Place) (v : Json) : Option Grant :=
  match Json.closedRecord? p ["subject", "subject_type", "workspace", "relation"] v with
  | none => none
  | some f =>
    match Json.required f "subject" (Json.readStr p),
      Json.defaulted f "subject_type" (SubjectType.ofJson? p) .user,
      Json.required f "workspace" (Json.readStr p), Json.required f "relation" (Json.readStr p) with
    | some subject, some subjectType, some workspace, some relation =>
      some ⟨subject, subjectType, workspace, relation⟩
    | _, _, _, _ => none

/-- Reads which services pretend to be down. -/
def Outage.ofJson? (p : Json.Place) (v : Json) : Option Outage :=
  match Json.closedRecord? p ["permissions", "workspace_lookup", "relationship_checks"] v with
  | none => none
  | some f =>
    match Json.defaulted f "permissions" Json.readBool false,
      Json.defaulted f "workspace_lookup" Json.readBool false,
      Json.defaulted f "relationship_checks" Json.readBool false with
    | some permissions, some workspaces, some checks => some ⟨permissions, workspaces, checks⟩
    | _, _, _ => none

def Directory.ofJson? (p : Json.Place) (v : Json) : Option Directory :=
  match Json.closedRecord? p ["mode", "default_workspace_pattern", "workspaces", "grants",
    "permissions", "outage"] v with
  | none => none
  | some f =>
    match Json.defaulted f "mode" (CheckMode.ofJson? p) standard.mode,
      Json.defaulted f "default_workspace_pattern" (Json.readStr p) standard.pattern,
      Json.defaulted f "workspaces" (Json.readTable (Json.readStr p)) [],
      Json.defaulted f "grants" (Json.readList (Grant.ofJson? p)) [],
      Json.defaulted f "permissions" (Json.readTable (Json.readList (Permission.ofJson? p))) [],
      Json.defaulted f "outage" (Outage.ofJson? p) standard.outage with
    | some mode, some pattern, some workspaces, some grants, some permissions, some outage =>
      some ⟨mode, pattern, .ofList workspaces, grants, .ofList permissions, outage⟩
    | _, _, _, _, _, _ => none

end ScopedAccess
