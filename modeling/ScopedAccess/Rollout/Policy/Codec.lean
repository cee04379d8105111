import ScopedAccess.Decision.Codec
import ScopedAccess.Json.Record
import ScopedAccess.Rollout.Policy

/-!
# ScopedAccess.Rollout.Policy.Codec

Policies as JSON. Targeting is tagged by its strategy, with the parameters of the strategy beside
the tag. A strategy with parameters refuses those it does not know.
-/

namespace ScopedAccess

namespace Targeting

/-- Reads the parameters of a percentage. -/
def percentageOfJson? (v : Json) : Option Targeting :=
  match Json.closedRecord? .besideTag ["percentage", "seed", "otherwise"] v with
  | none => none
  | some f =>
    match Json.required f "percentage" (Json.readBelow UInt8.size),
      Json.defaulted f "seed" (Json.readBelow UInt64.size) 0,
      Json.defaulted f "otherwise" (Mode.ofJson? .besideTag) .attributeOnly with
    | some percent, some seed, some otherwise =>
      some (.percentage (.ofNat percent) (.ofNat seed) otherwise)
    | _, _, _ => none

/-- Reads the parameters of a list of tenants. -/
def listedOfJson? (v : Json) : Option Targeting :=
  match Json.closedRecord? .besideTag ["tenants", "otherwise"] v with
  | none => none
  | some f =>
    match Json.required f "tenants" (NameSet.ofJson? .besideTag),
      Json.defaulted f "otherwise" (Mode.ofJson? .besideTag) .attributeOnly with
    | some tenants, some otherwise => some (.listed tenants otherwise)
    | _, _ => none

/-- Reads the parameters of a strategy without any: members beside the tag are passed over, items
after it are not. -/
def everyoneOfJson? : Json → Option Targeting
  | .obj _ => some .everyone
  | .arr [] => some .everyone
  | _ => none

def strategies : List String := ["static", "percentage", "tenant_allowlist"]

def ofJson? (p : Json.Place) (v : Json) : Option Targeting :=
  match Json.besideTag? p "strategy" strategies v with
  | some ("static", rest) => everyoneOfJson? rest
  | some ("percentage", rest) => percentageOfJson? rest
  | some ("tenant_allowlist", rest) => listedOfJson? rest
  | _ => none

def toJson : Targeting → Json
  | .everyone => .obj [("strategy", .str "static")]
  | .percentage percent seed otherwise =>
    .obj [("strategy", .str "percentage"), ("percentage", .nat percent.toNat),
      ("seed", .nat seed.toNat), ("otherwise", otherwise.toJson)]
  | .listed tenants otherwise =>
    .obj [("strategy", .str "tenant_allowlist"), ("tenants", tenants.toJson),
      ("otherwise", otherwise.toJson)]

end Targeting

namespace RolloutPolicy

def ofJson? (v : Json) : Option RolloutPolicy :=
  match Json.closedRecord? .message ["mode", "targeting"] v with
  | none => none
  | some f =>
    match Json.required f "mode" (Mode.ofJson? .message),
      Json.defaulted f "targeting" (Targeting.ofJson? .message) .everyone with
    | some mode, some targeting => some ⟨mode, targeting⟩
    | _, _ => none

def toJson (p : RolloutPolicy) : Json :=
  .obj [("mode", p.mode.toJson), ("targeting", p.targeting.toJson)]

end RolloutPolicy

end ScopedAccess
