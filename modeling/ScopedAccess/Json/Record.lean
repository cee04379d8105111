import ScopedAccess.Json

/-!
# ScopedAccess.Json.Record

Shapes that values are read from. How closely a value has to keep to its shape depends on where it
stands (`Place`).

* A record is read from an object by the names of its fields, or from a list by their order. An
  open record ignores names it does not know; a closed one refuses them. A list longer than the
  fields is refused, save in settings.
* A choice among names is read from the name, or from an object whose only member has that name
  and holds nothing. In settings the object may have more members, and the first by name counts.
* A tagged value names its variant in one member. The rest of the value is either beside the tag
  (`besideTag?`) or in one further member (`underTag?`).
-/

namespace ScopedAccess.Json

/-- Where a value stands. -/
inductive Place where
  /-- In a message. -/
  | message
  /-- In settings. -/
  | settings
  /-- In a message or in settings, beside a tag. -/
  | besideTag
deriving DecidableEq, Inhabited

abbrev Fields := String → Option Json

/-- Fields of a record whose object may hold other names. -/
def openRecord? (p : Place) (names : List String) : Json → Option Fields
  | .obj ms => some fun name => find? name ms
  | .arr vs =>
    if p = .settings ∨ vs.length ≤ names.length then some fun name => find? name (names.zip vs)
    else none
  | _ => none

/-- Fields of a record whose object may hold no other name. -/
def closedRecord? (p : Place) (names : List String) : Json → Option Fields
  | .obj ms => if ms.all fun m => names.contains m.1 then some fun name => find? name ms else none
  | v => openRecord? p names v

/-- A field that must be there. -/
def required (f : Fields) (name : String) (read : Json → Option α) : Option α :=
  match f name with
  | none => none
  | some v => read v

/-- A field that has a value of its own where it is missing. A null is not missing. -/
def defaulted (f : Fields) (name : String) (read : Json → Option α) (value : α) : Option α :=
  match f name with
  | none => some value
  | some v => read v

/-- A value, or null. -/
def nullable (read : Json → Option α) : Json → Option (Option α)
  | .null => some none
  | v => (read v).map some

/-- A field that may be missing or null. -/
def optional (f : Fields) (name : String) (read : Json → Option α) : Option (Option α) :=
  defaulted f name (nullable read) none

def readAll (read : Json → Option α) : List Json → Option (List α)
  | [] => some []
  | v :: vs =>
    match read v, readAll read vs with
    | some a, some as => some (a :: as)
    | _, _ => none

def readList (read : Json → Option α) : Json → Option (List α)
  | .arr vs => readAll read vs
  | _ => none

/-- Every member of an object, read alike. -/
def readAllMembers (read : Json → Option α) : List (String × Json) → Option (List (String × α))
  | [] => some []
  | (n, v) :: ms =>
    match read v, readAllMembers read ms with
    | some a, some as => some ((n, a) :: as)
    | _, _ => none

/-- An object with members of one kind. -/
def readTable (read : Json → Option α) : Json → Option (List (String × α))
  | .obj ms => readAllMembers read ms
  | _ => none

/-- A string. A character stands for one, save beside a tag. -/
def readStr (p : Place) : Json → Option String
  | .str s => some s
  | .letter c => if p = .besideTag then none else some (String.singleton c)
  | _ => none

def readBool : Json → Option Bool
  | .bool b => some b
  | _ => none

/-- A natural number below a positive limit. Minus zero is zero. -/
def readBelow (limit : Nat) : Json → Option Nat
  | .int n => if 0 ≤ n ∧ n < limit then some n.toNat else none
  | .real "-0" => some 0
  | _ => none

def readStrings (p : Place) : Json → Option (List String) := readList (readStr p)

/-- The meaning of a name in a table of choices. -/
def chosen? (choices : List (String × α)) (name : String) : Option α :=
  match choices with
  | [] => none
  | (n, a) :: rest => if n = name then some a else chosen? rest name

def firstMember? : List (String × Json) → Option (String × Json)
  | [] => none
  | (n, v) :: rest =>
    match firstMember? rest with
    | some (m, w) => if m < n then some (m, w) else some (n, v)
    | none => some (n, v)

def choosingMember? (p : Place) (ms : List (String × Json)) : Option (String × Json) :=
  if p = .settings ∨ ms.length = 1 then firstMember? ms else none

/-- Whether the value of a choosing member holds nothing. Beside a tag that may also be an empty
object. -/
def holdsNothing (p : Place) : Json → Bool
  | .null => true
  | .obj [] => p == .besideTag
  | _ => false

/-- A choice among names. -/
def readChoice (p : Place) (choices : List (String × α)) : Json → Option α
  | .str name => chosen? choices name
  | .obj ms =>
    match choosingMember? p ms with
    | some (name, v) => if holdsNothing p v then chosen? choices name else none
    | none => none
  | _ => none

/-- The variant of a tag: its name, or in settings its number among the variants. -/
def variant? (p : Place) (variants : List String) : Json → Option String
  | .str name => some name
  | .int n => if p = .settings ∧ 0 ≤ n then variants[n.toNat]? else none
  | _ => none

/-- The variant of a tagged value and what stands beside the tag, if no integer there is beyond 64
bits. -/
def besideTag? (p : Place) (tag : String) (variants : List String) : Json → Option (String × Json)
  | .obj ms =>
    match find? tag ms with
    | some t => withRest t (.obj (ms.filter fun m => m.1 != tag))
    | none => none
  | .arr (t :: vs) => withRest t (.arr vs)
  | _ => none
where
  /-- A variant with what stands beside its tag. -/
  withRest (t rest : Json) : Option (String × Json) :=
    if holdsWords rest then (variant? p variants t).map fun name => (name, rest) else none

/-- The variant of a tagged value and its content, if it has any. In an object the tag is a choice
among names. -/
def underTag? (tag content : String) : Json → Option (String × Option Json)
  | .obj ms =>
    match find? tag ms with
    | some (.str t) => some (t, find? content ms)
    | some (.obj [(t, .null)]) => some (t, find? content ms)
    | _ => none
  | .arr [.str t, c] => some (t, some c)
  | _ => none

/-- The content of a variant that holds nothing: missing or null. -/
def isVoid : Option Json → Bool
  | none => true
  | some .null => true
  | some _ => false

end ScopedAccess.Json
