import ScopedAccess.Json.Record
import ScopedAccess.Permission
import ScopedAccess.Text.Blank
import ScopedAccess.Text.Letters
import ScopedAccess.Text.Pieces

/-!
# ScopedAccess.Permission.Codec

Permissions as JSON. A filter's values come as one string, as a list, or as a string with commas;
the operation is `equal` or `in` in any letter case.

* `AttributeFilter.ofJson` reads any value: what is no filter is `unrecognized`.
* `Permission.ofJson?` reads a missing, null or empty list of definitions as no filters, and
  anything else that is not a list as one unrecognized filter.
-/

namespace ScopedAccess

namespace AttributeFilter

/-- A filter on one value, unless the value is blank. -/
def ofValue (key value : String) : AttributeFilter :=
  if Text.isBlankText value then .unrecognized else .equal key (Text.trim value)

/-- A filter on the values that are not blank, each without the blanks around it. -/
def ofTrimmed (key : String) (values : List String) : AttributeFilter :=
  ofValues key ((values.map Text.trim).filter fun v => !v.isEmpty)

def equalTo (key : String) : Option Json → AttributeFilter
  | some (.str v) => ofValue key v
  | some (.arr [.str v]) => ofValue key v
  | _ => .unrecognized

def among (key : String) : Option Json → AttributeFilter
  | some (.str joined) => ofTrimmed key (Text.fields ',' joined)
  | some (.arr items) =>
    match Json.readAll (Json.readStr .message) items with
    | some values => ofTrimmed key values
    | none => .unrecognized
  | _ => .unrecognized

def ofJson (raw : Json) : AttributeFilter :=
  match raw.member? "key", raw.member? "operation" with
  | some (.str key), some (.str operation) =>
    if Text.lower operation = "equal" then equalTo key (raw.member? "value")
    else if Text.lower operation = "in" then among key (raw.member? "value")
    else .unrecognized
  | _, _ => .unrecognized

def toJson : AttributeFilter → Json
  | .equal key value => .obj [("key", .str key), ("operation", .str "equal"), ("value", .str value)]
  | .oneOf key values =>
    .obj [("key", .str key), ("operation", .str "in"), ("value", .strings values.toList)]
  | .unrecognized => .obj [("operation", .str "unrecognized")]

end AttributeFilter

namespace Permission

/-- The filter of one resource definition. -/
def filterOfDefinition (definition : Json) : AttributeFilter :=
  match definition.member? "attributeFilter" with
  | some raw => .ofJson raw
  | none => .unrecognized

/-- The filters of the resource definitions of a permission. -/
def filtersOfDefinitions : Json → List AttributeFilter
  | .null => []
  | .arr definitions => definitions.map filterOfDefinition
  | _ => [.unrecognized]

/-- The filters of the resource definitions of a permission, if no integer in them is beyond 64
bits. -/
def filtersOfDefinitions? (definitions : Json) : Option (List AttributeFilter) :=
  if definitions.holdsWords then some (filtersOfDefinitions definitions) else none

def ofJson? (p : Json.Place) (v : Json) : Option Permission :=
  match Json.openRecord? p ["permission", "resourceDefinitions"] v with
  | none => none
  | some f =>
    match Json.required f "permission" (Json.readStr p),
      Json.defaulted f "resourceDefinitions" filtersOfDefinitions? [] with
    | some name, some filters => some ⟨name, filters⟩
    | _, _ => none

def toJson (p : Permission) : Json :=
  .obj [("permission", .str p.name),
    ("resourceDefinitions", .arr (p.filters.map fun f => .obj [("attributeFilter", f.toJson)]))]

end Permission

end ScopedAccess
