import ScopedAccess.Json
import ScopedAccess.Json.Reader
import ScopedAccess.Text.Blank
import ScopedAccess.Text.Letters
import ScopedAccess.Text.Pieces

/-!
# ScopedAccess.Config.Environment

Settings from environment variables. `RUN_AUTHZ__RELATIONS__TEMPLATE` is the member `template` of
the member `relations` of the settings; letter case and blanks around the name do not matter.

* `Environment.path?` finds the members a variable's name stands for.
* `Environment.value` reads its text: truth values, numbers, quoted strings and characters, lists
  in brackets and objects in braces have a spelling of their own, and any other text stands for
  itself.
-/

namespace ScopedAccess.Environment

open Text Text.Decimal

/-- What the names of setting variables begin with. -/
def namePrefix : String := "run_authz__"

/-- The members a variable stands for, if it stands for any. -/
def path? (name : String) : Option (List String) :=
  let lowered := lower (trim name)
  if namePrefix.toList.isPrefixOf lowered.toList then
    let rest := String.ofList (lowered.toList.drop namePrefix.length)
    let parts := fields '.' (fill "__" "." rest)
    if parts.any fun p => p.isEmpty then none else some parts
  else none

def isGap (c : Char) : Bool := Json.isSpace c || c.toNat == 0x0C

/-- The characters that end a bare text. -/
def isMark (c : Char) : Bool := c == ',' || c == '\x7b' || c == '\x7d' || c == '[' || c == ']'

def isNameChar (c : Char) : Bool :=
  ('a' ≤ c && c ≤ 'z') || ('A' ≤ c && c ≤ 'Z') || isDigit c || c == '_' || c == '-'

/-- The sign of a number, and the rest of it. -/
def splitSign : List Char → Bool × List Char
  | '-' :: rest => (true, rest)
  | '+' :: rest => (false, rest)
  | rest => (false, rest)

/-- The value of an integer of 64 bits, signed or unsigned. -/
def integer? (cs : List Char) : Option Json :=
  match value? (splitSign cs).2 with
  | none => none
  | some n =>
    if (splitSign cs).1 then
      if n = 0 then some .minusZero
      else if n ≤ UInt64.size / 2 then some (.int (-(n : Int)))
      else none
    else if n < UInt64.size then some (.int n)
    else none

/-- Whether characters are an exponent, or nothing. -/
def isExponent : List Char → Bool
  | [] => true
  | e :: rest => (e == 'e' || e == 'E') && (value? (splitSign rest).2).isSome

/-- Whether characters are a decimal number with a point: at least one digit beside the point. -/
def isPointNumber (cs : List Char) : Bool :=
  let body := (splitSign cs).2
  match body.dropWhile isDigit with
  | '.' :: rest =>
    (!(body.takeWhile isDigit).isEmpty || !(rest.takeWhile isDigit).isEmpty) &&
      isExponent (rest.dropWhile isDigit)
  | _ => false

def bareValue (cs : List Char) : Json :=
  if isPointNumber cs then .real (String.ofList cs)
  else
    match integer? cs with
    | some v => v
    | none => .str (String.ofList cs)

/-- The number of hexadecimal digits read after `acc`. -/
def hexNumber? (acc : Nat) : List Char → Option Nat
  | [] => some acc
  | c :: cs =>
    match Json.hexValue? c with
    | none => none
    | some d => hexNumber? (acc * 16 + d) cs

/-- The character of a number of hexadecimal digits, and what follows them. -/
def hexChar? (count : Nat) (cs : List Char) : Option (Char × List Char) :=
  if cs.length < count then none
  else
    match hexNumber? 0 (cs.take count) with
    | none => none
    | some n => if Nat.isValidChar n then some (Char.ofNat n, cs.drop count) else none

/-- The character an escape stands for, and what follows. -/
def escaped? (c : Char) (rest : List Char) : Option (Char × List Char) :=
  match c with
  | '"' => some ('"', rest)
  | '\\' => some ('\\', rest)
  | 'b' => some (Char.ofNat 0x08, rest)
  | 'f' => some (Char.ofNat 0x0C, rest)
  | 'n' => some ('\n', rest)
  | 'r' => some ('\r', rest)
  | 't' => some ('\t', rest)
  | 'u' => hexChar? 4 rest
  | 'U' => hexChar? 8 rest
  | _ => none

/-- Whether a character may stand in quotes as it is. Controls may not, save the tab. -/
def isPlain (c : Char) : Bool := c == '\t' || (0x20 ≤ c.toNat && c.toNat != 0x7F)

/-- The characters that quoted ones stand for. `fuel` bounds their number. -/
def unescape? : Nat → List Char → Option (List Char)
  | 0, _ => none
  | _ + 1, [] => some []
  | fuel + 1, '\\' :: c :: rest =>
    match escaped? c rest with
    | none => none
    | some (c, rest) => (unescape? fuel rest).map (c :: ·)
  | fuel + 1, c :: rest => if isPlain c then (unescape? fuel rest).map (c :: ·) else none

/-- The characters that lie within the first `size` bytes. -/
def withinBytes : Nat → List Char → List Char
  | _, [] => []
  | size, c :: cs => if c.utf8Size ≤ size then c :: withinBytes (size - c.utf8Size) cs else []

/-- The text that stands in quotes. Where it has an escape, what is before the first one is cut to
as many bytes as it has characters, so that ASCII is kept whole. -/
def quotedText? (cs : List Char) : Option (List Char) :=
  let start := cs.takeWhile fun c => c != '\\'
  match cs.dropWhile fun c => c != '\\' with
  | [] => if start.all isPlain then some start else none
  | rest =>
    if start.all isPlain then
      (unescape? (rest.length + 1) rest).map (withinBytes start.length start ++ ·)
    else none

/-- The characters up to a closing quote, with their escapes, and what follows the quote. -/
def splitQuoted? : List Char → Option (List Char × List Char)
  | [] => none
  | '"' :: rest => some ([], rest)
  | '\\' :: c :: rest => (splitQuoted? rest).map fun (cs, rest) => ('\\' :: c :: cs, rest)
  | c :: rest => (splitQuoted? rest).map fun (cs, rest) => (c :: cs, rest)

/-- A quoted string after its opening quote, and what follows the closing one. -/
def readQuoted? (cs : List Char) : Option (List Char × List Char) :=
  match splitQuoted? cs with
  | none => none
  | some (quoted, rest) => (quotedText? quoted).map fun text => (text, rest)

/-- The name of a member, bare or in quotes. -/
def readName? (cs : List Char) : Option (String × List Char) :=
  match cs.dropWhile isGap with
  | '"' :: rest => (readQuoted? rest).map fun (n, rest) => (String.ofList n, rest)
  | rest =>
    if (rest.takeWhile isNameChar).isEmpty then none
    else some (String.ofList (rest.takeWhile isNameChar), rest.dropWhile isNameChar)

mutual

/-- A value and what follows it. `fuel` bounds the number of values. -/
def readValue? : Nat → List Char → Option (Json × List Char)
  | 0, _ => none
  | fuel + 1, cs =>
    match cs.dropWhile isGap with
    | 't' :: 'r' :: 'u' :: 'e' :: rest => some (.bool true, rest)
    | 'f' :: 'a' :: 'l' :: 's' :: 'e' :: rest => some (.bool false, rest)
    | '\x7b' :: rest => (readMembers? fuel [] rest).map fun (ms, rest) => (.obj ms, rest)
    | '[' :: rest => (readItems? fuel rest).map fun (vs, rest) => (.arr vs, rest)
    | '"' :: rest => (readQuoted? rest).map fun (s, rest) => (.str (String.ofList s), rest)
    | '\x27' :: c :: '\x27' :: rest => some (.letter c, rest)
    | '\x27' :: _ => none
    | rest => some (bareValue (trimChars (rest.takeWhile fun c => !isMark c)),
        rest.dropWhile fun c => !isMark c)

/-- The items of a list up to its closing bracket. The bracket may follow a comma. -/
def readItems? : Nat → List Char → Option (List Json × List Char)
  | 0, _ => none
  | _ + 1, ']' :: rest => some ([], rest)
  | fuel + 1, cs =>
    match readValue? fuel cs with
    | none => none
    | some (v, rest) =>
      match rest.dropWhile isGap with
      | ',' :: rest => (readItems? fuel rest).map fun (vs, rest) => (v :: vs, rest)
      | ']' :: rest => some ([v], rest)
      | _ => none

/-- The members of an object up to its closing brace, added to those read before. The brace may
follow a comma. -/
def readMembers? : Nat → List (String × Json) → List Char → Option (List (String × Json) × List Char)
  | 0, _, _ => none
  | _ + 1, seen, '\x7d' :: rest => some (seen, rest)
  | fuel + 1, seen, cs =>
    match readName? cs with
    | none => none
    | some (name, rest) =>
      match rest.dropWhile isGap with
      | '=' :: rest =>
        match readValue? fuel rest with
        | none => none
        | some (v, rest) =>
          match rest.dropWhile isGap with
          | ',' :: rest => readMembers? fuel (Json.setMember name v seen) rest
          | '\x7d' :: rest => some (Json.setMember name v seen, rest)
          | _ => none
      | _ => none

end

def value (text : String) : Json :=
  match readValue? (text.toList.length + 2) text.toList with
  | some (v, rest) => if rest.all isGap then v else .str text
  | none => .str text

/-- A value as a member of a member, and so on. -/
def nest : List String → Json → Json
  | [], v => v
  | name :: rest, v => .obj [(name, nest rest v)]

mutual

/-- Puts one value over another: members of objects are merged, any other value is replaced. -/
def overlay : Json → Json → Json
  | .obj below, .obj above => .obj (overlayMembers below above)
  | _, above => above

/-- Puts members over others. -/
def overlayMembers (below : List (String × Json)) : List (String × Json) → List (String × Json)
  | [] => below
  | (name, v) :: rest =>
    let merged := match Json.find? name below with
      | some w => overlay w v
      | none => v
    overlayMembers (Json.setMember name merged below) rest

end

/-- What one variable makes of the settings of those before it. -/
def addVariable (settings : Json) (entry : String × String) : Json :=
  match path? entry.1 with
  | some path => overlay settings (nest path (value entry.2))
  | none => settings

/-- The settings of some variables. Each is laid over those before it, so that of two variables for
one setting the later one counts. -/
def settings (environment : List (String × String)) : Json :=
  environment.foldl addVariable (.obj [])

end ScopedAccess.Environment
