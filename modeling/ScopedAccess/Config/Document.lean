import ScopedAccess.Json.Reader

/-!
# ScopedAccess.Config.Document

Settings files in the notation of JSON. A settings file is YAML, and of that language this is the
part that has braces, brackets and double quotes only; block style, plain and single-quoted strings,
comments, anchors and tags are left out, so that a file with any of them needs another `FileReader`.
Such a file is still a document of lines, and its lines have rules that a message does not know.

* A string may run over several lines, and a break within it is folded (`folded`).
* The name of a member stands on one line with its colon, at most `nameLimit` bytes before it.
* Lists and objects may be `nesting` deep.
* A tab indents nothing: outside the outermost value it may only end a line that has a token.
* Integers may have 128 bits. A number beyond binary64 is no number but the text it is written as.
-/

namespace ScopedAccess.Document

open Json Text.Decimal

/-- How many bytes may lie between the opening quote of a name and its colon. -/
def nameLimit : Nat := 1024

/-- How many lists and objects may be open at once. -/
def nesting : Nat := 128

/-- Whether a character may stand in a document. Controls may not, save tab and line breaks. -/
def isAllowed (c : Char) : Bool :=
  let n := c.toNat
  n == 0x09 || n == 0x0A || n == 0x0D || (0x20 ≤ n && n ≤ 0x7E) || n == 0x85 ||
    (0xA0 ≤ n && n ≤ 0xFFFD) || 0x10000 ≤ n

/-! ## Lines -/

/-- Writes every line break that stands for no character of its own as a line feed. -/
def plainBreaks : List Char → List Char
  | [] => []
  | '\r' :: '\n' :: rest => '\n' :: plainBreaks rest
  | c :: rest => (if c == '\r' || c.toNat == 0x85 then '\n' else c) :: plainBreaks rest

/-- The characters that end a line. -/
def isBreak (c : Char) : Bool := c == '\n' || c.toNat == 0x2028 || c.toNat == 0x2029

/-- The blanks within a line. -/
def isSpacing (c : Char) : Bool := c == ' ' || c == '\t'

/-- The byte order mark. It means nothing at the start of a line. -/
def isByteOrderMark (c : Char) : Bool := c.toNat == 0xFEFF

/-- Drops the gap between two tokens, with tabs or without. `lineStart` tells whether the gap starts
a line. -/
def dropGap (tabs : Bool) : Bool → List Char → List Char
  | _, [] => []
  | lineStart, c :: cs =>
    if isBreak c then dropGap tabs true cs
    else if c == ' ' || (tabs && c == '\t') || (lineStart && isByteOrderMark c) then
      dropGap tabs false cs
    else c :: cs

/-- Whether a line starts with a separator of documents. -/
def isSeparator : List Char → Bool
  | a :: b :: c :: rest =>
    ((a == '-' && b == '-' && c == '-') || (a == '.' && b == '.' && c == '.')) &&
      match rest with
      | [] => true
      | d :: _ => isSpacing d || isBreak d
  | _ => false

/-! ## Strings -/

/-- What a run of blanks and breaks in a string stands for. Without a break it stands for itself.
A lone line feed is a space, and before other breaks it is dropped, and so are all blanks. -/
def folded (gap : List Char) : List Char :=
  match gap.filter isBreak with
  | [] => gap
  | ['\n'] => [' ']
  | '\n' :: more => more
  | breaks => breaks

/-- The character an escape stands for, given what follows the backslash. It is never half of a
surrogate pair. -/
def readEscape? : List Char → Option (Char × List Char)
  | 'u' :: rest =>
    match hex4? rest with
    | none => none
    | some (n, rest) => if n.isValidChar then some (Char.ofNat n, rest) else none
  | rest => readEscape rest

/-- The characters of a string after its opening quote, and what follows the closing one. `fuel`
bounds the number of characters. -/
def readQuoted? : Nat → List Char → Option (List Char × List Char)
  | 0, _ => none
  | _ + 1, [] => none
  | _ + 1, '"' :: rest => some ([], rest)
  | fuel + 1, '\\' :: rest =>
    match readEscape? rest with
    | none => none
    | some (c, rest) => (readQuoted? fuel rest).map fun (cs, rest) => (c :: cs, rest)
  | fuel + 1, c :: cs =>
    let gap := (c :: cs).takeWhile fun c => isSpacing c || isBreak c
    if gap.isEmpty then (readQuoted? fuel cs).map fun (text, rest) => (c :: text, rest)
    else
      let rest := (c :: cs).drop gap.length
      if gap.getLast?.any isBreak && isSeparator rest then none
      else (readQuoted? fuel rest).map fun (text, rest) => (folded gap ++ text, rest)

/-- Whether a name may take up the text from its opening quote to its colon. -/
def nameFits (name colon : List Char) : Bool :=
  let taken := name.take (name.length - colon.length)
  !taken.any isBreak && (String.ofList taken).utf8ByteSize ≤ nameLimit

/-! ## Numbers -/

/-- A number with some zeros after its digits. -/
def tenfold : Nat → Nat → Nat
  | 0, n => n
  | zeros + 1, n => tenfold zeros (n * 10)

def exponentValue : List Char → Int
  | _ :: '-' :: ds => -(valueFrom 0 ds : Int)
  | _ :: '+' :: ds => valueFrom 0 ds
  | _ :: ds => valueFrom 0 ds
  | [] => 0

/-- The least amount that rounds beyond the numbers of binary64: half a unit of the last place above
the largest of them. -/
def floatLimit : Nat := ((1 <<< 54) - 1) <<< 970

/-- Whether a number is within binary64. An amount with 309 digits before the point is compared with
the limit, which has as many; any other is told by their number. -/
def isFinite (n : Numeral) : Bool :=
  let ds := (n.whole ++ n.fraction.drop 1).dropWhile fun c => c == '0'
  let scale := exponentValue n.exponent - ((n.fraction.length - 1 : Nat) : Int)
  let places := scale + ds.length
  if ds.isEmpty || places < 309 then true
  else if places > 309 then false
  else tenfold scale.toNat (valueFrom 0 ds) < tenfold (-scale).toNat floatLimit

/-- Whether an integer has 128 bits, signed or unsigned. -/
def isWideInteger (n : Int) : Bool :=
  n < ((1 <<< 128 : Nat) : Int) && -n ≤ ((1 <<< 127 : Nat) : Int)

def numberOf (n : Numeral) : Json :=
  if n.isWhole && isWideInteger n.toInt then if n.isMinusZero then .minusZero else .int n.toInt
  else if isFinite n then .real n.text
  else .str n.text

/-! ## Texts -/

def dialect : Dialect where
  skip := dropGap true false
  quoted := fun cs => readQuoted? (cs.length + 1) cs
  nameFits := nameFits
  number := numberOf

/-- The value a document holds, if it is one in this notation. A document of blank lines holds an
empty object. -/
def ofText? (text : String) : Option Json :=
  if !text.toList.all isAllowed then none
  else
    match dropGap false true (plainBreaks text.toList) with
    | [] => some (.obj [])
    | '\t' :: _ => none
    | cs =>
      match readValue dialect (cs.length + 1) nesting cs with
      | none => none
      | some (v, rest) =>
        if (dropGap false false (rest.dropWhile isSpacing)).isEmpty then some v else none

end ScopedAccess.Document
