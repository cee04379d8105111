import ScopedAccess.Catalog
import ScopedAccess.Json.Record
import ScopedAccess.NameMap
import ScopedAccess.Text.Pieces

/-!
# ScopedAccess.RelationNaming

Names of the relations that the relationship service is asked about. A service's relation is its
override, if one of the overrides spells the service, and else the template filled with the
service's key. One more relation may stand for the whole organization.
-/

namespace ScopedAccess

def serviceHole : String := "\x7bservice\x7d"

/-- How relations are named. -/
structure RelationNaming where
  template : String
  overrides : NameMap String
  orgRelation : Option String
deriving DecidableEq

namespace RelationNaming

def standard : RelationNaming where
  template := "playbook_dispatcher_\x7bservice\x7d_run_view"
  overrides := .empty
  orgRelation := some "playbook_dispatcher_run_view"

instance : Inhabited RelationNaming := ⟨standard⟩

/-- The override of a service: the first by name that spells the service. -/
def overrideFor? (n : RelationNaming) (service : String) : Option String :=
  (n.overrides.entries.find? fun e => serviceKey e.1 == serviceKey service).map Prod.snd

def relationFor (n : RelationNaming) (service : String) : String :=
  match n.overrideFor? service with
  | some relation => relation
  | none => Text.fill serviceHole (serviceKey service) n.template

/-- Reads a naming. What is missing is as in the standard naming. -/
def ofJson? (p : Json.Place) (v : Json) : Option RelationNaming :=
  match Json.closedRecord? p ["template", "overrides", "org_relation"] v with
  | none => none
  | some f =>
    match Json.defaulted f "template" (Json.readStr p) standard.template,
      Json.defaulted f "overrides" (Json.readTable (Json.readStr p)) [],
      Json.defaulted f "org_relation" (Json.nullable (Json.readStr p)) standard.orgRelation with
    | some template, some overrides, some orgRelation =>
      some ⟨template, .ofList overrides, orgRelation⟩
    | _, _, _ => none

def toJson (n : RelationNaming) : Json :=
  .obj [("template", .str n.template),
    ("overrides", .obj (n.overrides.entries.map fun (k, v) => (k, .str v))),
    ("org_relation", .optStr n.orgRelation)]

end RelationNaming

end ScopedAccess
