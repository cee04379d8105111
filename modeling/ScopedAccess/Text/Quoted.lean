import ScopedAccess.Text.Hidden

/-!
# ScopedAccess.Text.Quoted

Names in quotes, for log entries: quotes, backslashes and hidden characters are escaped.
-/

namespace ScopedAccess.Text

/-- Hexadecimal digits of a number, without leading zeros. -/
def hexDigits (n : Nat) : List Char := Nat.toDigits 16 n

def quotedChar (c : Char) : List Char :=
  if c = '"' then ['\\', '"']
  else if c = '\\' then ['\\', '\\']
  else if c = '\n' then ['\\', 'n']
  else if c = '\r' then ['\\', 'r']
  else if c = '\t' then ['\\', 't']
  else if c.toNat = 0 then ['\\', '0']
  else if isHidden c then
    ['\\', 'u', '\x7b'] ++ hexDigits c.toNat ++ ['\x7d']
  else [c]

def quoted (s : String) : List Char := '"' :: s.toList.flatMap quotedChar ++ ['"']

/-- Names in quotes, separated by a comma and a space. -/
def quotedItems : List String → List Char
  | [] => []
  | [s] => quoted s
  | s :: rest => quoted s ++ ',' :: ' ' :: quotedItems rest

def quotedList (names : List String) : String :=
  String.ofList ('[' :: quotedItems names ++ [']'])

end ScopedAccess.Text
