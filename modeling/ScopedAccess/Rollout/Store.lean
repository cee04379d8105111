import ScopedAccess.Log
import ScopedAccess.Rollout.Policy

/-!
# ScopedAccess.Rollout.Store

The policy in force and its version. Installing a policy that differs from the one in force raises
the version by one; installing an equal one changes nothing. A fetched policy is installed only if
it is valid.
-/

namespace ScopedAccess

/-- A policy with its version. -/
structure PolicySnapshot where
  policy : RolloutPolicy
  version : UInt64
deriving DecidableEq, Inhabited

namespace PolicySnapshot

/-- The first snapshot. -/
def first (policy : RolloutPolicy) : PolicySnapshot := ⟨policy, 1⟩

/-- Installs a policy. -/
def replace (s : PolicySnapshot) (policy : RolloutPolicy) : PolicySnapshot :=
  if s.policy = policy then s else ⟨policy, s.version + 1⟩

/-- What is logged when a policy was installed. -/
def updateLog (s : PolicySnapshot) : LogEntry :=
  ⟨.info, "rollout policy updated",
    [("version", .number s.version.toNat), ("mode", .text s.policy.mode.name)]⟩

/-- A fetched policy, unless it is invalid. -/
def checked : Except PolicyFault RolloutPolicy → Except PolicyFault RolloutPolicy
  | .error fault => .error fault
  | .ok policy =>
    match policy.validate with
    | .error fault => .error fault
    | .ok _ => .ok policy

/-- The snapshot after a fetch. A failed fetch and an invalid policy leave it as it is. -/
def refresh (s : PolicySnapshot) (fetched : Except PolicyFault RolloutPolicy) : PolicySnapshot :=
  match checked fetched with
  | .ok policy => s.replace policy
  | .error _ => s

/-- What a fetch returns to those who asked for it: the version in force, or the fault. -/
def refreshResult (s : PolicySnapshot) (fetched : Except PolicyFault RolloutPolicy) :
    Except PolicyFault UInt64 :=
  match checked fetched with
  | .ok policy => .ok (s.replace policy).version
  | .error fault => .error fault

/-- What a fetch logs: the new snapshot, if it is new. -/
def refreshLog (s : PolicySnapshot) (fetched : Except PolicyFault RolloutPolicy) : List LogEntry :=
  if (s.refresh fetched).version = s.version then [] else [(s.refresh fetched).updateLog]

end PolicySnapshot

end ScopedAccess
