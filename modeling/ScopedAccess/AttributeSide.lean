import ScopedAccess.Decision
import ScopedAccess.Permission
import ScopedAccess.Query
import ScopedAccess.Text.Letters

/-!
# ScopedAccess.AttributeSide

The decision of the attribute model: the union of what the permissions of the required name grant.

* Without a permission of that name access is denied; with one that has no filters it is
  unrestricted.
* Otherwise the values of the service filters count, as far as the catalog lists them. Filters on
  other attributes grant nothing, and neither do those that could not be read.
-/

namespace ScopedAccess

/-- Whether a filter is about services. -/
def AttributeFilter.isOnServices (f : AttributeFilter) : Bool :=
  match f.key? with
  | some key => Text.sameLetters (Text.trim key) serviceProperty
  | none => false

/-- A decision, and what was passed over on the way to it. -/
structure AttributeResolution where
  decision : Decision
  /-- Number of filters that could not be read. -/
  malformed : Nat
  /-- Granted values that the catalog does not list, in order. -/
  dropped : List String
deriving DecidableEq

namespace AttributeResolution

/-- The permissions that count. -/
def matching (permissions : List Permission) (required : String) : List Permission :=
  permissions.filter fun p => p.name == required

/-- The values that service filters grant, in order. -/
def grantedValues (filters : List AttributeFilter) : List String :=
  (filters.filter AttributeFilter.isOnServices).flatMap AttributeFilter.values

def ofFilters (filters : List AttributeFilter) (catalog : Catalog) : AttributeResolution where
  decision := .restricted .attribute (.ofList ((grantedValues filters).filterMap catalog.resolve))
    .emptyServiceScope
  malformed := (filters.filter fun f => !f.isRecognized).length
  dropped := (grantedValues filters).filter fun v => !catalog.contains v

/-- Resolves the permissions of a subject. -/
def resolve (permissions : List Permission) (required : String) (catalog : Catalog) :
    AttributeResolution :=
  let found := matching permissions required
  if found.isEmpty then ⟨.denyAll .attribute .noMatchingPermission, 0, []⟩
  else if found.any fun p => p.filters.isEmpty then ⟨.unrestricted .attribute, 0, []⟩
  else ofFilters (found.flatMap Permission.filters) catalog

end AttributeResolution

end ScopedAccess
