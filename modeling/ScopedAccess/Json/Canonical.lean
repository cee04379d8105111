import ScopedAccess.Json

/-!
# ScopedAccess.Json.Canonical

Values with the members of every object in the order of their names.
-/

namespace ScopedAccess.Json

/-- Puts a member at its place among members in order. -/
def placeMember (name : String) (v : Json) : List (String × Json) → List (String × Json)
  | [] => [(name, v)]
  | (n, w) :: rest => if name < n then (name, v) :: (n, w) :: rest else (n, w) :: placeMember name v rest

mutual

/-- The value with all members in order. -/
def canonical : Json → Json
  | .arr items => .arr (canonicalItems items)
  | .obj members => .obj (canonicalMembers members)
  | .null => .null
  | .bool b => .bool b
  | .int n => .int n
  | .real t => .real t
  | .str s => .str s
  | .letter c => .letter c

def canonicalItems : List Json → List Json
  | [] => []
  | v :: rest => canonical v :: canonicalItems rest

def canonicalMembers : List (String × Json) → List (String × Json)
  | [] => []
  | (n, v) :: rest => placeMember n (canonical v) (canonicalMembers rest)

end

end ScopedAccess.Json
