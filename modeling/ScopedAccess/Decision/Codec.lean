import ScopedAccess.Json.Record
import ScopedAccess.Decision

/-!
# ScopedAccess.Decision.Codec

Decisions as JSON. Access is tagged by its scope: an unrestricted one has no services, a restricted
one always lists them, so a denial is never read as full access. The deny reason is left out where
there is none.
-/

namespace ScopedAccess

namespace Source

def name : Source → String
  | .attribute => "attribute"
  | .relationship => "relationship"

def ofJson? : Json → Option Source :=
  Json.readChoice .message [("attribute", .attribute), ("relationship", .relationship)]

def toJson (s : Source) : Json := .str s.name

end Source

namespace DenyReason

def name : DenyReason → String
  | .noMatchingPermission => "no_matching_permission"
  | .emptyServiceScope => "empty_service_scope"
  | .noRelationshipGrant => "no_relationship_grant"

def ofJson? : Json → Option DenyReason :=
  Json.readChoice .message [("no_matching_permission", .noMatchingPermission),
    ("empty_service_scope", .emptyServiceScope), ("no_relationship_grant", .noRelationshipGrant)]

def toJson (r : DenyReason) : Json := .str r.name

end DenyReason

def NameSet.ofJson? (p : Json.Place) (v : Json) : Option NameSet :=
  (Json.readStrings p v).map .ofList

def NameSet.toJson (s : NameSet) : Json := .strings s.toList

namespace Access

def ofJson? (v : Json) : Option Access :=
  match Json.underTag? "scope" "services" v with
  | some ("unrestricted", content) => if Json.isVoid content then some .unrestricted else none
  | some ("restricted", some content) => (NameSet.ofJson? .message content).map .restricted
  | _ => none

def toJson : Access → Json
  | .unrestricted => .obj [("scope", .str "unrestricted")]
  | .restricted services => .obj [("scope", .str "restricted"), ("services", services.toJson)]

end Access

namespace Decision

def ofJson? (v : Json) : Option Decision :=
  match Json.openRecord? .message ["source", "access", "deny_reason"] v with
  | none => none
  | some f =>
    match Json.required f "source" Source.ofJson?, Json.required f "access" Access.ofJson?,
      Json.optional f "deny_reason" DenyReason.ofJson? with
    | some source, some access, some denyReason => some ⟨source, access, denyReason⟩
    | _, _, _ => none

def toJson (d : Decision) : Json :=
  .obj ([("source", d.source.toJson), ("access", d.access.toJson)] ++
    match d.denyReason with
    | some r => [("deny_reason", r.toJson)]
    | none => [])

end Decision

end ScopedAccess
