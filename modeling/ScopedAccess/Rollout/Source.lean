import ScopedAccess.Rollout.Policy
import ScopedAccess.Timeline

/-!
# ScopedAccess.Rollout.Source

Where rollout policies are fetched from: the answers a source gives to one fetch after another. The
last answer is repeated.
-/

namespace ScopedAccess

abbrev FetchedPolicy := Except PolicyFault RolloutPolicy

/-- The answers of a policy source, in order. -/
structure PolicySource where
  answers : List (Reply FetchedPolicy)
deriving Inhabited

namespace PolicySource

/-- The answer to the next fetch, and the answers after it. A source without answers has every
tenant in the attribute model. -/
def next (s : PolicySource) : Reply FetchedPolicy × PolicySource :=
  match s.answers with
  | [] => (.atOnce (.ok (.fixed .attributeOnly)), s)
  | [answer] => (answer, s)
  | answer :: rest => (answer, ⟨rest⟩)

end PolicySource

end ScopedAccess
