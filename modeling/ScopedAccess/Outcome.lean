import ScopedAccess.Decision.Codec
import ScopedAccess.Mode

/-!
# ScopedAccess.Outcome

What an authorization call returns: the enforced decision, the mode it was made in, whether the
attribute decision stands in for a failed relationship side, and the version of the rollout policy
the mode was selected from.
-/

namespace ScopedAccess

/-- Result of an authorization call. -/
structure Outcome where
  decision : Decision
  mode : Mode
  fallbackApplied : Bool
  policyVersion : UInt64
deriving DecidableEq, Inhabited

namespace Outcome

def ofJson? (v : Json) : Option Outcome :=
  match Json.openRecord? .message ["decision", "mode", "fallback_applied", "policy_version"] v with
  | none => none
  | some f =>
    match Json.required f "decision" Decision.ofJson?,
      Json.required f "mode" (Mode.ofJson? .message),
      Json.required f "fallback_applied" Json.readBool,
      Json.required f "policy_version" (Json.readBelow UInt64.size) with
    | some decision, some mode, some fallbackApplied, some policyVersion =>
      some ⟨decision, mode, fallbackApplied, .ofNat policyVersion⟩
    | _, _, _, _ => none

def toJson (o : Outcome) : Json :=
  .obj [("decision", o.decision.toJson), ("mode", o.mode.toJson),
    ("fallback_applied", .bool o.fallbackApplied), ("policy_version", .nat o.policyVersion.toNat)]

end Outcome

end ScopedAccess
