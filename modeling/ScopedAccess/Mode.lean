import ScopedAccess.Decision
import ScopedAccess.Json.Record
import ScopedAccess.Text.Blank
import ScopedAccess.Text.Letters
import ScopedAccess.Text.Pieces

/-!
# ScopedAccess.Mode

How a request is authorized: by one permission model, or by both with one of them enforced and the
other only compared.

* `Mode.authoritative` is the model whose decision is enforced.
* `Mode.parse` reads a mode from loose text: blanks around it, letter case and dashes do not matter.
-/

namespace ScopedAccess

/-- How a request is authorized. -/
inductive Mode where
  | attributeOnly
  | relationshipOnly
  | dualValidate
  | dualEnforceNew
deriving DecidableEq, Inhabited

namespace Mode

/-- The model whose decision is enforced. -/
def authoritative : Mode → Source
  | .attributeOnly => .attribute
  | .dualValidate => .attribute
  | .relationshipOnly => .relationship
  | .dualEnforceNew => .relationship

/-- Whether both models run. -/
def isDual : Mode → Bool
  | .dualValidate => true
  | .dualEnforceNew => true
  | _ => false

def name : Mode → String
  | .attributeOnly => "attribute_only"
  | .relationshipOnly => "relationship_only"
  | .dualValidate => "dual_validate"
  | .dualEnforceNew => "dual_enforce_new"

def names : List (String × Mode) :=
  [("attribute_only", .attributeOnly), ("relationship_only", .relationshipOnly),
    ("dual_validate", .dualValidate), ("dual_enforce_new", .dualEnforceNew)]

def ofJson? (p : Json.Place) : Json → Option Mode := Json.readChoice p names

def toJson (m : Mode) : Json := .str m.name

/-- The name that loose text stands for. -/
def looseName (text : String) : String :=
  Text.fill "-" "_" (Text.lower (Text.trim text))

/-- Text that names no mode. -/
structure ParseError where
  name : String
deriving DecidableEq

def ParseError.message (e : ParseError) : String := "unknown authorization mode: " ++ e.name

def parse (text : String) : Except ParseError Mode :=
  match Json.chosen? names (looseName text) with
  | some m => .ok m
  | none => .error ⟨looseName text⟩

end Mode

end ScopedAccess
