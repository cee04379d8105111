import ScopedAccess.Fault
import ScopedAccess.Hash.Xxh3
import ScopedAccess.Mode
import ScopedAccess.NameSet

/-!
# ScopedAccess.Rollout.Policy

Which mode a tenant is authorized in. A policy names a mode and the tenants it applies to; the
other tenants stay in a mode of their own. Targeting looks at the tenant alone, so all subjects of
a tenant share a mode.

* `bucket` spreads tenants evenly over a hundred buckets; raising a percentage only ever adds
  tenants.
* `RolloutPolicy.validate` refuses percentages above a hundred.
-/

namespace ScopedAccess

/-- The tenants a policy applies to. -/
inductive Targeting where
  | everyone
  | percentage (percent : UInt8) (seed : UInt64) (otherwise : Mode)
  | listed (tenants : NameSet) (otherwise : Mode)
deriving DecidableEq

instance : Inhabited Targeting := ⟨.everyone⟩

/-- A mode and the tenants it applies to. -/
structure RolloutPolicy where
  mode : Mode
  targeting : Targeting
deriving DecidableEq, Inhabited

/-- A number as a byte. A number beyond all bytes becomes the largest of them. -/
def clampedByte (n : Nat) : UInt8 := if n < UInt8.size then .ofNat n else .ofNat (UInt8.size - 1)

theorem toNat_clampedByte {n : Nat} (h : n < UInt8.size) : (clampedByte n).toNat = n := by
  rw [clampedByte, if_pos h]
  exact UInt8.toNat_ofNat_of_lt' h

/-- The bucket of a tenant: its hash modulo a hundred, in a byte. -/
def bucket (seed : UInt64) (tenant : String) : Nat :=
  (clampedByte ((Hash.Xxh3.hash seed tenant).toNat % 100)).toNat

/-- A bucket is never what a number beyond all bytes becomes. -/
theorem bucket_eq (seed : UInt64) (tenant : String) :
    bucket seed tenant = (Hash.Xxh3.hash seed tenant).toNat % 100 := by
  have hlt : (Hash.Xxh3.hash seed tenant).toNat % 100 < 100 := Nat.mod_lt _ (by decide)
  exact toNat_clampedByte (Nat.lt_trans hlt (by decide))

theorem bucket_lt (seed : UInt64) (tenant : String) : bucket seed tenant < 100 := by
  rw [bucket_eq]
  exact Nat.mod_lt _ (by decide)

namespace RolloutPolicy

/-- The policy that applies a mode to everyone. -/
def fixed (mode : Mode) : RolloutPolicy := ⟨mode, .everyone⟩

def select (p : RolloutPolicy) (tenant : String) : Mode :=
  match p.targeting with
  | .everyone => p.mode
  | .percentage percent seed otherwise =>
    if bucket seed tenant < percent.toNat then p.mode else otherwise
  | .listed tenants otherwise => if tenant ∈ tenants then p.mode else otherwise

def validate (p : RolloutPolicy) : Except PolicyFault Unit :=
  match p.targeting with
  | .percentage percent _ _ =>
    if percent.toNat > 100 then
      .error (.invalid ("rollout percentage must be within 0..=100, got " ++
        Text.Decimal.text percent.toNat))
    else .ok ()
  | _ => .ok ()

def isValid (p : RolloutPolicy) : Bool :=
  match p.validate with
  | .ok _ => true
  | .error _ => false

end RolloutPolicy

end ScopedAccess
