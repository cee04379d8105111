/-!
# ScopedAccess.Json

JSON values. Integers are kept apart from all other numbers, because the readers of this library
accept the first kind only. An object is a list of members; where a name occurs twice the first
occurrence counts.

Settings are values of the same kind, with three more cases that no JSON message can hold: integers
beyond 64 bits, an integer zero with a minus sign (`minusZero`), and a character that is written as
one (`letter`).
-/

namespace ScopedAccess

/-- A JSON value. -/
inductive Json where
  | null
  | bool (value : Bool)
  | int (value : Int)
  /-- A number that is not kept as an integer, as written. -/
  | real (text : String)
  | str (value : String)
  /-- A character, where it is not written as a string. -/
  | letter (value : Char)
  | arr (items : List Json)
  | obj (members : List (String × Json))
deriving Inhabited

namespace Json

def find? (name : String) : List (String × Json) → Option Json
  | [] => none
  | (n, v) :: rest => if n = name then some v else find? name rest

/-- The value of a member of an object. -/
def member? (name : String) : Json → Option Json
  | .obj ms => find? name ms
  | _ => none

/-- Zero with a minus sign. It is read as the integer zero but is not the number of anything. -/
def minusZero : Json := .real "-0"

def strings (xs : List String) : Json := .arr (xs.map .str)

def nat (n : Nat) : Json := .int n

def optStr : Option String → Json
  | some s => .str s
  | none => .null

/-- Puts a member in place of one of its name, or at the end. -/
def setMember (name : String) (v : Json) : List (String × Json) → List (String × Json)
  | [] => [(name, v)]
  | (n, w) :: rest => if n = name then (name, v) :: rest else (n, w) :: setMember name v rest

/-- Whether an integer has 64 bits, signed or unsigned. -/
def isWord (n : Int) : Bool := n < (UInt64.size : Int) && -n ≤ ((UInt64.size / 2 : Nat) : Int)

mutual

/-- Whether every integer in a value has 64 bits. -/
def holdsWords : Json → Bool
  | .int n => isWord n
  | .arr items => itemsHoldWords items
  | .obj members => membersHoldWords members
  | _ => true

/-- Whether every integer in a list has 64 bits. -/
def itemsHoldWords : List Json → Bool
  | [] => true
  | v :: rest => holdsWords v && itemsHoldWords rest

/-- Whether every integer in an object has 64 bits. -/
def membersHoldWords : List (String × Json) → Bool
  | [] => true
  | (_, v) :: rest => holdsWords v && membersHoldWords rest

end

end Json

end ScopedAccess
