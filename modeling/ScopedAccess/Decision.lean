import ScopedAccess.Catalog
import ScopedAccess.NameSet

/-!
# ScopedAccess.Decision

What resolving a request against one permission model concludes. A decision either leaves access
unrestricted or restricts it to a set of services; the empty set is a denial, not a missing
opinion.

* `admits`: a service is visible if the catalog lists it and the decision covers it in any
  spelling.
* `agrees`: two decisions agree if both are unrestricted or both restrict to the same services, up
  to spelling; source and reason play no part.
-/

namespace ScopedAccess

/-- Permission model a decision comes from. -/
inductive Source where
  | attribute
  | relationship
deriving DecidableEq, Inhabited

/-- Visible services. -/
inductive Access where
  | unrestricted
  | restricted (services : NameSet)
deriving DecidableEq, Inhabited

/-- Why a restricted decision allows nothing. -/
inductive DenyReason where
  | noMatchingPermission
  | emptyServiceScope
  | noRelationshipGrant
deriving DecidableEq, Inhabited

/-- Conclusion of one permission model. -/
structure Decision where
  source : Source
  access : Access
  denyReason : Option DenyReason
deriving DecidableEq, Inhabited

namespace Decision

/-- Access to everything the catalog lists. -/
def unrestricted (source : Source) : Decision := ⟨source, .unrestricted, none⟩

/-- Access to some services; the reason is kept only if there are none. -/
def restricted (source : Source) (services : NameSet) (reason : DenyReason) : Decision :=
  ⟨source, .restricted services, if services.isEmpty then some reason else none⟩

/-- Access to nothing. -/
def denyAll (source : Source) (reason : DenyReason) : Decision := restricted source ∅ reason

def isUnrestricted (d : Decision) : Bool :=
  match d.access with
  | .unrestricted => true
  | .restricted _ => false

/-- Whether access is restricted to nothing. -/
def isDenyAll (d : Decision) : Bool :=
  match d.access with
  | .unrestricted => false
  | .restricted services => services.isEmpty

/-- The services access is restricted to. -/
def allowed? (d : Decision) : Option NameSet :=
  match d.access with
  | .unrestricted => none
  | .restricted services => some services

/-- Whether runs of a service are visible. -/
def admits (d : Decision) (service : String) (catalog : Catalog) : Bool :=
  match catalog.resolve service with
  | none => false
  | some id =>
    match d.access with
    | .unrestricted => true
    | .restricted services => services.toList.any fun s => serviceKey s == serviceKey id

def keys (services : NameSet) : NameSet := .ofList (services.toList.map serviceKey)

/-- Whether two decisions open the same services. -/
def agrees (d e : Decision) : Bool :=
  match d.access, e.access with
  | .unrestricted, .unrestricted => true
  | .restricted s, .restricted t => keys s == keys t
  | _, _ => false

end Decision

end ScopedAccess
