/-!
# ScopedAccess.NameSet

Finite sets of names, kept as strictly increasing lists. Names are ordered by code point, so a set
has one representation and prints in one order.

* `ext`: sets with the same members are equal.
* `mem_insert`, `mem_ofList`: membership after insertion and in a set built from a list.
-/

namespace ScopedAccess

/-- A finite set of names. -/
structure NameSet where
  toList : List String
  increasing : toList.Pairwise (· < ·)
deriving DecidableEq

namespace NameSet

instance : Membership String NameSet := ⟨fun s x => x ∈ s.toList⟩

instance (x : String) (s : NameSet) : Decidable (x ∈ s) :=
  inferInstanceAs (Decidable (x ∈ s.toList))

theorem mem_iff {x : String} {s : NameSet} : x ∈ s ↔ x ∈ s.toList := Iff.rfl

theorem pairwise_nil : ([] : List String).Pairwise (· < ·) := .nil

def empty : NameSet := ⟨[], pairwise_nil⟩

instance : EmptyCollection NameSet := ⟨empty⟩

instance : Inhabited NameSet := ⟨empty⟩

def isEmpty (s : NameSet) : Bool := s.toList.isEmpty

/-- Puts a name at its place in an increasing list, once. -/
def insertSorted (x : String) : List String → List String
  | [] => [x]
  | y :: ys =>
    if x < y then x :: y :: ys
    else if x = y then y :: ys
    else y :: insertSorted x ys

theorem mem_insertSorted {x z : String} {ys : List String} :
    z ∈ insertSorted x ys ↔ z = x ∨ z ∈ ys := by
  induction ys with
  | nil => simp [insertSorted]
  | cons y ys ih =>
    simp only [insertSorted]
    split
    · simp
    · split
      · rename_i h; subst h; simp
      · simp only [List.mem_cons, ih]; exact or_left_comm

theorem pairwise_insertSorted {x : String} {ys : List String} (h : ys.Pairwise (· < ·)) :
    (insertSorted x ys).Pairwise (· < ·) := by
  induction ys with
  | nil => simp [insertSorted]
  | cons y ys ih =>
    have hy := List.pairwise_cons.1 h
    simp only [insertSorted]
    split
    · rename_i hxy
      refine List.pairwise_cons.2 ⟨fun z hz => ?_, h⟩
      rcases List.mem_cons.1 hz with rfl | hz
      · exact hxy
      · exact String.lt_trans hxy (hy.1 z hz)
    · split
      · exact h
      · rename_i hxy hne
        refine List.pairwise_cons.2 ⟨fun z hz => ?_, ih hy.2⟩
        rcases mem_insertSorted.1 hz with rfl | hz
        · exact Std.not_le.1 fun hle => hne (String.le_antisymm hle (String.not_lt.1 hxy))
        · exact hy.1 z hz

def insert (s : NameSet) (x : String) : NameSet :=
  ⟨insertSorted x s.toList, pairwise_insertSorted s.increasing⟩

def ofList (xs : List String) : NameSet := xs.foldr (fun x s => s.insert x) empty

@[simp] theorem mem_empty {x : String} : ¬ x ∈ (∅ : NameSet) := List.not_mem_nil

@[simp] theorem mem_insert {s : NameSet} {x z : String} : z ∈ s.insert x ↔ z = x ∨ z ∈ s :=
  mem_insertSorted

@[simp] theorem mem_ofList {xs : List String} {z : String} : z ∈ ofList xs ↔ z ∈ xs := by
  induction xs with
  | nil => simp [ofList, mem_iff, empty]
  | cons x xs ih =>
    have : ofList (x :: xs) = (ofList xs).insert x := rfl
    rw [this, mem_insert, ih, List.mem_cons]

theorem pairwise_ext : ∀ {xs ys : List String}, xs.Pairwise (· < ·) → ys.Pairwise (· < ·) →
    (∀ z, z ∈ xs ↔ z ∈ ys) → xs = ys
  | [], [], _, _, _ => rfl
  | [], y :: ys, _, _, h => absurd ((h y).2 (List.mem_cons_self ..)) (List.not_mem_nil)
  | x :: xs, [], _, _, h => absurd ((h x).1 (List.mem_cons_self ..)) (List.not_mem_nil)
  | x :: xs, y :: ys, hx, hy, h => by
    have hx' := List.pairwise_cons.1 hx
    have hy' := List.pairwise_cons.1 hy
    have hxy : x = y := by
      rcases List.mem_cons.1 ((h x).1 (List.mem_cons_self ..)) with e | hxm
      · exact e
      · rcases List.mem_cons.1 ((h y).2 (List.mem_cons_self ..)) with e | hym
        · exact e.symm
        · exact absurd (hx'.1 y hym) (String.lt_asymm (hy'.1 x hxm))
    subst hxy
    congr 1
    refine pairwise_ext hx'.2 hy'.2 fun z => ⟨fun hz => ?_, fun hz => ?_⟩
    · rcases List.mem_cons.1 ((h z).1 (List.mem_cons_of_mem _ hz)) with rfl | hz'
      · exact absurd (hx'.1 z hz) (String.lt_irrefl z)
      · exact hz'
    · rcases List.mem_cons.1 ((h z).2 (List.mem_cons_of_mem _ hz)) with rfl | hz'
      · exact absurd (hy'.1 z hz) (String.lt_irrefl z)
      · exact hz'

/-- Sets with the same members are equal. -/
theorem ext {s t : NameSet} (h : ∀ z, z ∈ s ↔ z ∈ t) : s = t := by
  have := pairwise_ext s.increasing t.increasing h
  cases s; cases t; cases this; rfl

theorem isEmpty_iff {s : NameSet} : s.isEmpty = true ↔ ∀ z, ¬ z ∈ s := by
  simp only [isEmpty, List.isEmpty_iff, mem_iff]
  exact List.eq_nil_iff_forall_not_mem

/-- The list of a set gives the set back. -/
theorem ofList_toList (s : NameSet) : ofList s.toList = s :=
  ext fun _ => mem_ofList

end NameSet

end ScopedAccess
