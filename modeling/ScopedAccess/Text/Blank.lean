/-!
# ScopedAccess.Text.Blank

Blank characters and trimming.

* `isBlank` is Unicode's `White_Space` property, so a non-breaking space is blank and a zero-width
  space is not.
* `trim` removes the blanks at both ends of a text and nothing else.
* `isBlankText` holds of a text that trims to nothing.
* `trim_trim`: a trimmed text has no blanks left to trim.
-/

namespace ScopedAccess.Text

/-- Membership in Unicode's `White_Space` property. -/
def isBlank (c : Char) : Bool :=
  let n := c.toNat
  (0x09 ≤ n && n ≤ 0x0D) || n == 0x20 || n == 0x85 || n == 0xA0 || n == 0x1680 ||
    (0x2000 ≤ n && n ≤ 0x200A) || n == 0x2028 || n == 0x2029 || n == 0x202F || n == 0x205F ||
    n == 0x3000

/-- Characters without the blanks they end in. -/
def dropTrailingBlanks (cs : List Char) : List Char :=
  (cs.reverse.dropWhile isBlank).reverse

/-- Characters without the blanks at either end. -/
def trimChars (cs : List Char) : List Char :=
  dropTrailingBlanks (cs.dropWhile isBlank)

/-- Text without the blanks at either end. -/
def trim (s : String) : String :=
  String.ofList (trimChars s.toList)

def isBlankText (s : String) : Bool :=
  (trim s).isEmpty

theorem toList_trim (s : String) : (trim s).toList = trimChars s.toList :=
  String.toList_ofList

theorem dropWhile_eq_self_of_head {p : Char → Bool} {cs : List Char}
    (h : ∀ c, cs.head? = some c → p c = false) : cs.dropWhile p = cs := by
  cases cs with
  | nil => rfl
  | cons c cs => simp [h c rfl]

theorem head_dropWhile {p : Char → Bool} {cs : List Char} {c : Char}
    (h : (cs.dropWhile p).head? = some c) : p c = false := by
  induction cs with
  | nil => simp at h
  | cons d cs ih =>
    rw [List.dropWhile_cons] at h
    split at h
    · exact ih h
    · rename_i hd; cases h; simpa using hd

theorem getLast_dropTrailingBlanks {cs : List Char} {c : Char}
    (h : (dropTrailingBlanks cs).getLast? = some c) : isBlank c = false := by
  rw [dropTrailingBlanks, List.getLast?_reverse] at h
  exact head_dropWhile h

theorem dropTrailingBlanks_eq_self {cs : List Char}
    (h : ∀ c, cs.getLast? = some c → isBlank c = false) : dropTrailingBlanks cs = cs := by
  rw [dropTrailingBlanks, dropWhile_eq_self_of_head, List.reverse_reverse]
  intro c hc
  rw [List.head?_reverse] at hc
  exact h c hc

theorem isPrefix_dropTrailingBlanks (cs : List Char) : dropTrailingBlanks cs <+: cs := by
  rw [dropTrailingBlanks, ← List.reverse_suffix, List.reverse_reverse]
  exact List.dropWhile_suffix _

theorem head_of_isPrefix {xs ys : List Char} (h : xs <+: ys) {c : Char}
    (hx : xs.head? = some c) : ys.head? = some c := by
  obtain ⟨zs, rfl⟩ := h
  cases xs with
  | nil => simp at hx
  | cons x xs => simpa using hx

theorem trimChars_trimChars (cs : List Char) : trimChars (trimChars cs) = trimChars cs := by
  rw [trimChars, dropWhile_eq_self_of_head, dropTrailingBlanks_eq_self]
  · intro c hc; exact getLast_dropTrailingBlanks hc
  · intro c hc
    exact head_dropWhile (head_of_isPrefix (isPrefix_dropTrailingBlanks _) hc)

theorem trim_trim (s : String) : trim (trim s) = trim s := by
  simp only [trim, String.toList_ofList, trimChars_trimChars]

end ScopedAccess.Text
