import ScopedAccess.NameSet

/-!
# ScopedAccess.Permission

Named permissions with attribute filters. A permission without filters is unrestricted; a filter
limits it to some values of one attribute. A filter that could not be read is kept as
`unrecognized`: it grants nothing, and it keeps the permission from looking unrestricted.
-/

namespace ScopedAccess

/-- A limit on one attribute. -/
inductive AttributeFilter where
  | equal (key value : String)
  | oneOf (key : String) (values : NameSet)
  | unrecognized
deriving DecidableEq

namespace AttributeFilter

/-- A filter on a list of values; without any value it is unrecognized. -/
def ofValues (key : String) (values : List String) : AttributeFilter :=
  if values.isEmpty then .unrecognized else .oneOf key (.ofList values)

/-- The attribute a readable filter is about. -/
def key? : AttributeFilter → Option String
  | .equal key _ => some key
  | .oneOf key _ => some key
  | .unrecognized => none

/-- The values a filter admits, in order. -/
def values : AttributeFilter → List String
  | .equal _ value => [value]
  | .oneOf _ values => values.toList
  | .unrecognized => []

def isRecognized : AttributeFilter → Bool
  | .unrecognized => false
  | _ => true

end AttributeFilter

/-- A named permission. Names may repeat among the permissions of one subject. -/
structure Permission where
  name : String
  filters : List AttributeFilter
deriving DecidableEq

end ScopedAccess
