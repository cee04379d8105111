import ScopedAccess.Json
import ScopedAccess.Text.Decimal

/-!
# ScopedAccess.Json.Reader

Reading JSON text. The grammar is strict: no comments, no trailing commas and no leading zeros.
Where an object names a member twice the last one counts.

* `Dialect` holds what differs between messages and other texts of the same grammar.
* `Dialect.message` is the dialect of messages: no raw control characters in strings, no escape
  that names half of a surrogate pair, and an integer is an `int` if it has 64 bits and a `real`
  otherwise.
* `ofText?` reads a message.
-/

namespace ScopedAccess.Json

open Text.Decimal

/-- The blanks JSON allows between tokens. -/
def isSpace (c : Char) : Bool := c == ' ' || c == '\t' || c == '\n' || c == '\r'

def hexValue? (c : Char) : Option Nat :=
  if isDigit c then some (digitValue c)
  else if 'a' ≤ c && c ≤ 'f' then some (c.toNat - 'a'.toNat + 10)
  else if 'A' ≤ c && c ≤ 'F' then some (c.toNat - 'A'.toNat + 10)
  else none

/-- Four hexadecimal digits and what follows them. -/
def hex4? : List Char → Option (Nat × List Char)
  | a :: b :: c :: d :: rest =>
    match hexValue? a, hexValue? b, hexValue? c, hexValue? d with
    | some w, some x, some y, some z => some (w * 4096 + x * 256 + y * 16 + z, rest)
    | _, _, _, _ => none
  | _ => none

/-- The character an escape stands for, given what follows the backslash. -/
def readEscape : List Char → Option (Char × List Char)
  | '"' :: rest => some ('"', rest)
  | '\\' :: rest => some ('\\', rest)
  | '/' :: rest => some ('/', rest)
  | 'b' :: rest => some (Char.ofNat 0x08, rest)
  | 'f' :: rest => some (Char.ofNat 0x0C, rest)
  | 'n' :: rest => some ('\n', rest)
  | 'r' :: rest => some ('\r', rest)
  | 't' :: rest => some ('\t', rest)
  | 'u' :: rest =>
    match hex4? rest with
    | none => none
    | some (high, rest) =>
      if 0xD800 ≤ high && high ≤ 0xDBFF then
        match rest with
        | '\\' :: 'u' :: rest =>
          match hex4? rest with
          | none => none
          | some (low, rest) =>
            if 0xDC00 ≤ low && low ≤ 0xDFFF then
              some (Char.ofNat (0x10000 + (high - 0xD800) * 1024 + (low - 0xDC00)), rest)
            else none
        | _ => none
      else if 0xDC00 ≤ high && high ≤ 0xDFFF then none
      else some (Char.ofNat high, rest)
  | _ => none

/-- The characters of a string after its opening quote, and what follows the closing one. `fuel`
bounds the number of characters. -/
def readString : Nat → List Char → Option (List Char × List Char)
  | 0, _ => none
  | _ + 1, [] => none
  | _ + 1, '"' :: rest => some ([], rest)
  | fuel + 1, '\\' :: rest =>
    match readEscape rest with
    | none => none
    | some (c, rest) =>
      match readString fuel rest with
      | none => none
      | some (cs, rest) => some (c :: cs, rest)
  | fuel + 1, c :: rest =>
    if c.toNat < 0x20 then none
    else
      match readString fuel rest with
      | none => none
      | some (cs, rest) => some (c :: cs, rest)

/-- An exponent, empty where there is none. -/
def readExponent (cs : List Char) : Option (List Char × List Char) :=
  match cs with
  | e :: rest =>
    if e == 'e' || e == 'E' then
      let (sign, rest) := match rest with
        | '+' :: rest => (['+'], rest)
        | '-' :: rest => (['-'], rest)
        | rest => ([], rest)
      let ds := rest.takeWhile isDigit
      if ds.isEmpty then none else some (e :: sign ++ ds, rest.dropWhile isDigit)
    else some ([], cs)
  | [] => some ([], [])

/-- A fraction, empty where there is none. -/
def readFraction (cs : List Char) : Option (List Char × List Char) :=
  match cs with
  | '.' :: rest =>
    let ds := rest.takeWhile isDigit
    if ds.isEmpty then none else some ('.' :: ds, rest.dropWhile isDigit)
  | _ => some ([], cs)

/-- A number as it is written. -/
structure Numeral where
  negative : Bool
  whole : List Char
  /-- The point and the digits after it, or nothing. -/
  fraction : List Char
  /-- The exponent with its letter, or nothing. -/
  exponent : List Char
deriving DecidableEq

namespace Numeral

/-- Whether there is neither a fraction nor an exponent. -/
def isWhole (n : Numeral) : Bool := n.fraction.isEmpty && n.exponent.isEmpty

/-- The digits before the point as a number. -/
def magnitude (n : Numeral) : Nat := valueFrom 0 n.whole

/-- The digits before the point as a number with its sign. -/
def toInt (n : Numeral) : Int := if n.negative then -(n.magnitude : Int) else n.magnitude

/-- Whether a whole number is zero with a minus sign. -/
def isMinusZero (n : Numeral) : Bool := n.negative && n.magnitude == 0

def text (n : Numeral) : String :=
  String.ofList ((if n.negative then ['-'] else []) ++ n.whole ++ n.fraction ++ n.exponent)

/-- The value of a number in a message: minus zero and integers beyond 64 bits are no integers,
and get a point. -/
def value (n : Numeral) : Json :=
  if !n.isWhole then .real n.text
  else if n.isMinusZero || !isWord n.toInt then .real (n.text ++ ".0")
  else .int n.toInt

end Numeral

def readNumeral (cs : List Char) : Option (Numeral × List Char) :=
  let (negative, cs) := match cs with
    | '-' :: rest => (true, rest)
    | rest => (false, rest)
  let whole := cs.takeWhile isDigit
  if whole.isEmpty || (whole.length > 1 && whole.head? == some '0') then none
  else
    match readFraction (cs.dropWhile isDigit) with
    | none => none
    | some (fraction, cs) =>
      match readExponent cs with
      | none => none
      | some (exponent, cs) => some (⟨negative, whole, fraction, exponent⟩, cs)

/-- What tells one kind of JSON text from another. -/
structure Dialect where
  /-- Drops what may stand between two tokens. -/
  skip : List Char → List Char
  /-- The characters of a string after its opening quote, and what follows the closing one. -/
  quoted : List Char → Option (List Char × List Char)
  /-- Whether a name may take up the text from its opening quote to the colon after it: what is
  left of the text at the one and at the other. -/
  nameFits : List Char → List Char → Bool
  /-- The value of a number. -/
  number : Numeral → Json

def Dialect.message : Dialect where
  skip := fun cs => cs.dropWhile isSpace
  quoted := fun cs => readString (cs.length + 1) cs
  nameFits := fun _ _ => true
  number := Numeral.value

mutual

/-- A value and what follows it. `fuel` bounds the number of tokens, and `depth` how many lists and
objects may be open at once. -/
def readValue (d : Dialect) : Nat → Nat → List Char → Option (Json × List Char)
  | 0, _, _ => none
  | fuel + 1, depth, cs =>
    match d.skip cs with
    | 'n' :: 'u' :: 'l' :: 'l' :: rest => some (.null, rest)
    | 't' :: 'r' :: 'u' :: 'e' :: rest => some (.bool true, rest)
    | 'f' :: 'a' :: 'l' :: 's' :: 'e' :: rest => some (.bool false, rest)
    | '"' :: rest =>
      match d.quoted rest with
      | none => none
      | some (s, rest) => some (.str (String.ofList s), rest)
    | '[' :: rest =>
      if depth = 0 then none
      else
        match d.skip rest with
        | ']' :: rest => some (.arr [], rest)
        | rest =>
          match readItems d fuel (depth - 1) rest with
          | none => none
          | some (vs, rest) => some (.arr vs, rest)
    | '\x7b' :: rest =>
      if depth = 0 then none
      else
        match d.skip rest with
        | '\x7d' :: rest => some (.obj [], rest)
        | rest =>
          match readMembers d fuel (depth - 1) [] rest with
          | none => none
          | some (ms, rest) => some (.obj ms, rest)
    | rest =>
      match readNumeral rest with
      | none => none
      | some (n, rest) => some (d.number n, rest)

/-- The items of a list up to its closing bracket. -/
def readItems (d : Dialect) : Nat → Nat → List Char → Option (List Json × List Char)
  | 0, _, _ => none
  | fuel + 1, depth, cs =>
    match readValue d fuel depth cs with
    | none => none
    | some (v, rest) =>
      match d.skip rest with
      | ']' :: rest => some ([v], rest)
      | ',' :: rest =>
        match readItems d fuel depth rest with
        | none => none
        | some (vs, rest) => some (v :: vs, rest)
      | _ => none

/-- The members of an object up to its closing brace, added to those read before. -/
def readMembers (d : Dialect) : Nat → Nat → List (String × Json) → List Char →
    Option (List (String × Json) × List Char)
  | 0, _, _, _ => none
  | fuel + 1, depth, seen, cs =>
    match d.skip cs with
    | '"' :: start =>
      match d.quoted start with
      | none => none
      | some (name, rest) =>
        match d.skip rest with
        | ':' :: rest =>
          if !d.nameFits ('"' :: start) (':' :: rest) then none
          else
            match readValue d fuel depth rest with
            | none => none
            | some (v, rest) =>
              let seen := setMember (String.ofList name) v seen
              match d.skip rest with
              | '\x7d' :: rest => some (seen, rest)
              | ',' :: rest => readMembers d fuel depth seen rest
              | _ => none
        | _ => none
    | _ => none

end

/-- The value a message holds, if its text is one JSON value with blanks around it. -/
def ofText? (s : String) : Option Json :=
  let cs := s.toList
  match readValue .message (cs.length + 1) cs.length cs with
  | none => none
  | some (v, rest) => if rest.all isSpace then some v else none

end ScopedAccess.Json
