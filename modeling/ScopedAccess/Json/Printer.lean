import ScopedAccess.Json
import ScopedAccess.Text.Decimal

/-!
# ScopedAccess.Json.Printer

JSON text, with members in the order of the value and escapes only where JSON demands them.

* `compact` puts no blanks between tokens.
* `pretty` puts every item and member on a line of its own, two spaces further in.
-/

namespace ScopedAccess.Json

/-- The hexadecimal digit of a number below sixteen. -/
def hexDigit (d : Nat) : Char :=
  if d < 10 then Char.ofNat ('0'.toNat + d) else Char.ofNat ('a'.toNat + (d - 10))

/-- A character inside a string: quotes, backslashes and control characters are escaped. -/
def escape (c : Char) : List Char :=
  if c = '"' then ['\\', '"']
  else if c = '\\' then ['\\', '\\']
  else if c = '\n' then ['\\', 'n']
  else if c = '\r' then ['\\', 'r']
  else if c = '\t' then ['\\', 't']
  else if c.toNat = 0x08 then ['\\', 'b']
  else if c.toNat = 0x0C then ['\\', 'f']
  else if c.toNat < 0x20 then ['\\', 'u', '0', '0', hexDigit (c.toNat / 16), hexDigit (c.toNat % 16)]
  else [c]

def quote (s : String) : List Char :=
  '"' :: s.toList.flatMap escape ++ ['"']

def renderInt : Int → List Char
  | .ofNat n => Text.Decimal.digits n
  | .negSucc n => '-' :: Text.Decimal.digits (n + 1)

mutual

def render : Json → List Char
  | .null => ['n', 'u', 'l', 'l']
  | .bool true => ['t', 'r', 'u', 'e']
  | .bool false => ['f', 'a', 'l', 's', 'e']
  | .int n => renderInt n
  | .real t => t.toList
  | .str s => quote s
  | .letter c => quote (String.singleton c)
  | .arr items => '[' :: renderItems items ++ [']']
  | .obj members => '\x7b' :: renderMembers members ++ ['\x7d']

/-- Items of a list, separated by commas. -/
def renderItems : List Json → List Char
  | [] => []
  | [v] => render v
  | v :: rest => render v ++ ',' :: renderItems rest

/-- Members of an object, separated by commas. -/
def renderMembers : List (String × Json) → List Char
  | [] => []
  | [(n, v)] => quote n ++ ':' :: render v
  | (n, v) :: rest => quote n ++ ':' :: render v ++ ',' :: renderMembers rest

end

def compact (v : Json) : String := String.ofList (render v)

def newline (depth : Nat) : List Char := '\n' :: List.replicate (2 * depth) ' '

mutual

/-- Characters of a value at a depth, on several lines. -/
def layOut (depth : Nat) : Json → List Char
  | .arr [] => ['[', ']']
  | .arr items => '[' :: layOutItems (depth + 1) items ++ newline depth ++ [']']
  | .obj [] => ['\x7b', '\x7d']
  | .obj members => '\x7b' :: layOutMembers (depth + 1) members ++ newline depth ++ ['\x7d']
  | .null => render .null
  | .bool b => render (.bool b)
  | .int n => render (.int n)
  | .real t => render (.real t)
  | .str s => render (.str s)
  | .letter c => render (.letter c)

/-- Items of a list, each on a line of its own. -/
def layOutItems (depth : Nat) : List Json → List Char
  | [] => []
  | [v] => newline depth ++ layOut depth v
  | v :: rest => newline depth ++ layOut depth v ++ ',' :: layOutItems depth rest

/-- Members of an object, each on a line of its own. -/
def layOutMembers (depth : Nat) : List (String × Json) → List Char
  | [] => []
  | [(n, v)] => newline depth ++ quote n ++ ':' :: ' ' :: layOut depth v
  | (n, v) :: rest =>
    newline depth ++ quote n ++ ':' :: ' ' :: layOut depth v ++ ',' :: layOutMembers depth rest

end

def pretty (v : Json) : String := String.ofList (layOut 0 v)

end ScopedAccess.Json
