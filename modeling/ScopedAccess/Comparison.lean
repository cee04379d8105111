import ScopedAccess.Decision.Codec
import ScopedAccess.Fault
import ScopedAccess.Subject

/-!
# ScopedAccess.Comparison

The record of one request that both permission models were asked about.

* `Comparison.ofSides` fills the record: each side is a decision or the text of its error, and the
  sides agree only if both are decisions that agree.
* `enforced` picks the side of the authoritative model, whatever the other side is.
-/

namespace ScopedAccess

/-- What one permission model answered. -/
abbrev Side := Except AuthzError Decision

namespace Side

def decision? : Side → Option Decision
  | .ok d => some d
  | .error _ => none

def errorText? : Side → Option String
  | .ok _ => none
  | .error e => some e.message

/-- Whether the side was given up because the call was interrupted. -/
def isCanceled : Side → Bool
  | .error .canceled => true
  | _ => false

end Side

/-- Two answers to one request. -/
structure Comparison where
  subject : String
  tenant : String
  attributeSide : Option Decision
  relationshipSide : Option Decision
  attributeError : Option String
  relationshipError : Option String
  agreement : Bool
  authoritative : Source
deriving DecidableEq, Inhabited

/-- The side of the authoritative model. -/
def enforced (attributeSide relationshipSide : Side) : Source → Side
  | .attribute => attributeSide
  | .relationship => relationshipSide

/-- Whether both sides are decisions that agree. -/
def sidesAgree : Side → Side → Bool
  | .ok d, .ok e => d.agrees e
  | _, _ => false

namespace Comparison

def ofSides (request : Request) (attributeSide relationshipSide : Side) (authoritative : Source) :
    Comparison where
  subject := request.subject
  tenant := request.tenant
  attributeSide := attributeSide.decision?
  relationshipSide := relationshipSide.decision?
  attributeError := attributeSide.errorText?
  relationshipError := relationshipSide.errorText?
  agreement := sidesAgree attributeSide relationshipSide
  authoritative := authoritative

def ofJson? (v : Json) : Option Comparison :=
  match Json.openRecord? .message ["subject_id", "tenant_id", "attribute", "relationship",
    "attribute_error", "relationship_error", "agreement", "authoritative"] v with
  | none => none
  | some f =>
    match Json.required f "subject_id" (Json.readStr .message),
      Json.required f "tenant_id" (Json.readStr .message),
      Json.optional f "attribute" Decision.ofJson?, Json.optional f "relationship" Decision.ofJson?,
      Json.optional f "attribute_error" (Json.readStr .message),
      Json.optional f "relationship_error" (Json.readStr .message),
      Json.required f "agreement" Json.readBool,
      Json.required f "authoritative" Source.ofJson? with
    | some subject, some tenant, some attributeSide, some relationshipSide, some attributeError,
      some relationshipError, some agreement, some authoritative =>
      some ⟨subject, tenant, attributeSide, relationshipSide, attributeError, relationshipError,
        agreement, authoritative⟩
    | _, _, _, _, _, _, _, _ => none

def sideToJson : Option Decision → Json
  | some d => d.toJson
  | none => .null

/-- The text of an error under its name, or nothing. -/
def errorToJson (name : String) : Option String → List (String × Json)
  | some text => [(name, .str text)]
  | none => []

def toJson (c : Comparison) : Json :=
  .obj ([("subject_id", .str c.subject), ("tenant_id", .str c.tenant),
      ("attribute", sideToJson c.attributeSide), ("relationship", sideToJson c.relationshipSide)] ++
    errorToJson "attribute_error" c.attributeError ++
    errorToJson "relationship_error" c.relationshipError ++
    [("agreement", .bool c.agreement), ("authoritative", c.authoritative.toJson)])

end Comparison

end ScopedAccess
