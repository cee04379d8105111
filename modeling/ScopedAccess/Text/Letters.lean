/-!
# ScopedAccess.Text.Letters

Letter case. Only the ASCII letters fold, so `É` and `é` stay apart.

* `lower` maps `A`..`Z` to `a`..`z` and keeps every other character.
* `sameLetters` compares two texts up to that map.
-/

namespace ScopedAccess.Text

/-- Text with its ASCII capitals in lower case. -/
def lower (s : String) : String :=
  String.ofList (s.toList.map Char.toLower)

/-- Equality up to the case of ASCII letters. -/
def sameLetters (s t : String) : Bool :=
  lower s == lower t

end ScopedAccess.Text
