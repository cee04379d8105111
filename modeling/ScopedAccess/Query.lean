import ScopedAccess.Decision
import ScopedAccess.Json.Record

/-!
# ScopedAccess.Query

From a decision to the condition of a query over runs.

* `ServiceFilter.ofDecision` compiles a decision: unrestricted to no filter, the empty restriction
  to `denyAll`, any other to the list of its services.
* `ServiceFilter.constraint?` is the predicate the query carries. `denyAll` has none on purpose:
  such a query is not run at all.
-/

namespace ScopedAccess

/-- The services a query over runs may show. -/
inductive ServiceFilter where
  | unfiltered
  | denyAll
  | among (services : List String)
deriving DecidableEq, Inhabited

/-- A condition on one property. -/
inductive Predicate where
  | equal (property value : String)
  | among (property : String) (values : List String)
deriving DecidableEq, Inhabited

/-- Conditions that must all hold. -/
structure Constraint where
  predicates : List Predicate
deriving DecidableEq, Inhabited

/-- The property that filters and queries name services by. -/
def serviceProperty : String := "service"

namespace ServiceFilter

def ofDecision (d : Decision) : ServiceFilter :=
  match d.access with
  | .unrestricted => .unfiltered
  | .restricted services => if services.isEmpty then .denyAll else .among services.toList

def isDenyAll : ServiceFilter → Bool
  | .denyAll => true
  | _ => false

/-- Whether a run of a service is visible. The spelling counts. -/
def admitsRun (f : ServiceFilter) (service : String) : Bool :=
  match f with
  | .unfiltered => true
  | .denyAll => false
  | .among services => services.any fun s => s == service

/-- The condition a query carries, if it carries one. -/
def constraint? : ServiceFilter → Option Constraint
  | .among [service] => some ⟨[.equal serviceProperty service]⟩
  | .among services => some ⟨[.among serviceProperty services]⟩
  | _ => none

def ofJson? (v : Json) : Option ServiceFilter :=
  match Json.underTag? "filter" "services" v with
  | some ("unfiltered", content) => if Json.isVoid content then some .unfiltered else none
  | some ("deny_all", content) => if Json.isVoid content then some .denyAll else none
  | some ("in", some content) => (Json.readStrings .message content).map .among
  | _ => none

def toJson : ServiceFilter → Json
  | .unfiltered => .obj [("filter", .str "unfiltered")]
  | .denyAll => .obj [("filter", .str "deny_all")]
  | .among services => .obj [("filter", .str "in"), ("services", .strings services)]

end ServiceFilter

namespace Predicate

def equalOfJson? (v : Json) : Option (String × String) :=
  match Json.openRecord? .message ["property", "value"] v with
  | none => none
  | some f =>
    match Json.required f "property" (Json.readStr .message),
      Json.required f "value" (Json.readStr .message) with
    | some property, some value => some (property, value)
    | _, _ => none

def amongOfJson? (v : Json) : Option (String × List String) :=
  match Json.openRecord? .message ["property", "values"] v with
  | none => none
  | some f =>
    match Json.required f "property" (Json.readStr .message),
      Json.required f "values" (Json.readStrings .message) with
    | some property, some values => some (property, values)
    | _, _ => none

def ofJson? (v : Json) : Option Predicate :=
  match Json.besideTag? .message "op" ["eq", "in"] v with
  | some ("eq", rest) => (equalOfJson? rest).map fun (p, x) => .equal p x
  | some ("in", rest) => (amongOfJson? rest).map fun (p, xs) => .among p xs
  | _ => none

def toJson : Predicate → Json
  | .equal property value =>
    .obj [("op", .str "eq"), ("property", .str property), ("value", .str value)]
  | .among property values =>
    .obj [("op", .str "in"), ("property", .str property), ("values", .strings values)]

end Predicate

namespace Constraint

def ofJson? (v : Json) : Option Constraint :=
  match Json.openRecord? .message ["predicates"] v with
  | none => none
  | some f => (Json.required f "predicates" (Json.readList Predicate.ofJson?)).map Constraint.mk

def toJson (c : Constraint) : Json := .obj [("predicates", .arr (c.predicates.map Predicate.toJson))]

end Constraint

end ScopedAccess
