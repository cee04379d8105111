/-!
# ScopedAccess.Text.Pieces

Cutting a text at a separator and filling the holes of a template.

* `fields` cuts at every occurrence of one character: `n` occurrences give `n + 1` fields.
* `fill` replaces every occurrence of a hole, found from left to right without overlap; what is
  filled in is not searched again.
-/

namespace ScopedAccess.Text

/-- The fields of a list of characters between occurrences of `sep`. -/
def fieldChars (sep : Char) : List Char → List (List Char)
  | [] => [[]]
  | c :: cs =>
    match fieldChars sep cs with
    | [] => [[]]
    | field :: rest => if c = sep then [] :: field :: rest else (c :: field) :: rest

/-- The fields of a text between occurrences of `sep`. -/
def fields (sep : Char) (s : String) : List String :=
  (fieldChars sep s.toList).map String.ofList

/-- Replaces `hole` by `value`. A hole is never empty. -/
def fillChars (hole value : List Char) : List Char → List Char
  | [] => []
  | c :: cs =>
    if hole.isPrefixOf (c :: cs) then value ++ fillChars hole value (cs.drop (hole.length - 1))
    else c :: fillChars hole value cs
termination_by text => text.length

/-- Text with every occurrence of `hole` replaced by `value`. -/
def fill (hole value text : String) : String :=
  String.ofList (fillChars hole.toList value.toList text.toList)

/-- Whether `part` occurs in the characters. -/
def containsChars (part : List Char) : List Char → Bool
  | [] => part.isEmpty
  | c :: cs => part.isPrefixOf (c :: cs) || containsChars part cs

def contains (part text : String) : Bool :=
  containsChars part.toList text.toList

theorem fieldChars_ne_nil (sep : Char) (cs : List Char) : fieldChars sep cs ≠ [] := by
  cases cs with
  | nil => simp [fieldChars]
  | cons c cs =>
    simp only [fieldChars]
    split
    · simp
    · split <;> simp

theorem toList_fill (hole value text : String) :
    (fill hole value text).toList = fillChars hole.toList value.toList text.toList :=
  String.toList_ofList

end ScopedAccess.Text
