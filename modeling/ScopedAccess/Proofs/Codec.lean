import ScopedAccess.Decision.Codec
import ScopedAccess.Mode
import ScopedAccess.Proofs.Json
import ScopedAccess.Proofs.JsonText

/-!
# ScopedAccess.Proofs.Codec

Values that are written as JSON and read back: the kinds that records are made of.

* `readList_map` and `readTable_map`: lists and tables are read back if their items are.
* `Mode.ofJson?_toJson`, `NameSet.ofJson?_toJson`, `Access.ofJson?_toJson`: reading what was written
  gives the value.
* `Textual` holds of all that is written, so that it can stand in a text and beside a tag
  (`holdsWords_of_textual`).
-/

namespace ScopedAccess

namespace Json

/-! ## Lists and tables -/

theorem readList_map {write : α → Json} {read : Json → Option α} (h : ∀ a, read (write a) = some a)
    (as : List α) : readList read (.arr (as.map write)) = some as := by
  rw [readList, readAll_eq_some, List.map_map]
  exact List.map_congr_left fun a _ => h a

theorem readTable_map {write : α → Json} {read : Json → Option α}
    (h : ∀ a, read (write a) = some a) (es : List (String × α)) :
    readTable read (.obj (es.map fun e => (e.1, write e.2))) = some es := by
  rw [readTable]
  induction es with
  | nil => rfl
  | cons e es ih => simp only [List.map_cons, readAllMembers, h, ih]

theorem readStrings_strings (p : Place) (xs : List String) :
    readStrings p (strings xs) = some xs := by
  have h : ∀ x : String, readStr p (.str x) = some x := fun _ => rfl
  exact readList_map h xs

theorem textual_strings (xs : List String) : Textual (strings xs) := by
  refine .arr fun v hv => ?_
  obtain ⟨x, -, rfl⟩ := List.mem_map.1 hv
  exact .str x

/-! ## Numbers -/

theorem readBelow_nat {limit n : Nat} (h : n < limit) : readBelow limit (.nat n) = some n := by
  rw [nat, readBelow, if_pos ⟨Int.natCast_nonneg n, Int.ofNat_lt.2 h⟩, Int.toNat_natCast]

theorem textual_nat {n : Nat} (h : n < UInt64.size) : Textual (.nat n) := by
  refine .int ?_
  rw [isWord, Bool.and_eq_true, decide_eq_true_eq, decide_eq_true_eq]
  omega

/-! ## Words -/

theorem itemsHoldWords_iff {items : List Json} :
    itemsHoldWords items = true ↔ ∀ v ∈ items, v.holdsWords = true := by
  induction items with
  | nil => simp [itemsHoldWords]
  | cons v vs ih => simp [itemsHoldWords, ih]

theorem membersHoldWords_iff {members : List (String × Json)} :
    membersHoldWords members = true ↔ ∀ m ∈ members, m.2.holdsWords = true := by
  induction members with
  | nil => simp [membersHoldWords]
  | cons m ms ih =>
    obtain ⟨n, v⟩ := m
    simp [membersHoldWords, ih]

/-- What a text can hold can also stand beside a tag. -/
theorem holdsWords_of_textual {v : Json} (h : Textual v) : v.holdsWords = true := by
  induction h with
  | int word => exact word
  | arr _ ih =>
    rw [holdsWords, itemsHoldWords_iff]
    exact ih
  | obj _ _ ih =>
    rw [holdsWords, membersHoldWords_iff]
    exact ih
  | _ => rfl

end Json

open Json

/-! ## Modes, sets and access -/

theorem Mode.ofJson?_toJson (p : Place) (m : Mode) : Mode.ofJson? p m.toJson = some m := by
  cases m <;> rfl

theorem Mode.textual_toJson (m : Mode) : Textual m.toJson := .str m.name

theorem NameSet.ofJson?_toJson (p : Place) (s : NameSet) : NameSet.ofJson? p s.toJson = some s := by
  rw [NameSet.ofJson?, NameSet.toJson, readStrings_strings, Option.map_some, ofList_toList]

theorem NameSet.textual_toJson (s : NameSet) : Textual s.toJson := textual_strings s.toList

theorem Access.ofJson?_toJson (a : Access) : Access.ofJson? a.toJson = some a := by
  cases a with
  | unrestricted => rfl
  | restricted services =>
    have hread : underTag? "scope" "services" (Access.restricted services).toJson =
        some ("restricted", some services.toJson) := rfl
    simp only [Access.ofJson?, hread, NameSet.ofJson?_toJson, Option.map_some]

theorem Access.textual_toJson (a : Access) : Textual a.toJson := by
  cases a with
  | unrestricted => exact .obj (by decide) (by simp [Textual.str])
  | restricted services =>
    exact .obj (by simp) (by simp [Textual.str, NameSet.textual_toJson])

end ScopedAccess
