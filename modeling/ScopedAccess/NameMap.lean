import ScopedAccess.NameSet

/-!
# ScopedAccess.NameMap

Finite maps from names, kept as lists with strictly increasing names, so that a map has one
representation and is gone through in the order of its names.

* `ofList` keeps the last value of a name.
* `ofList_entries`: the entries of a map give the map back.
-/

namespace ScopedAccess

/-- A finite map from names. -/
structure NameMap (α : Type) where
  entries : List (String × α)
  increasing : (entries.map Prod.fst).Pairwise (· < ·)

namespace NameMap

def empty : NameMap α := ⟨[], NameSet.pairwise_nil⟩

instance : Inhabited (NameMap α) := ⟨empty⟩

instance [DecidableEq α] : DecidableEq (NameMap α) := fun m n =>
  if h : m.entries = n.entries then
    .isTrue (by cases m; cases n; cases h; rfl)
  else .isFalse fun e => h (by rw [e])

/-- Puts an entry at its place, instead of the one of its name if there is one. -/
def putSorted (x : String) (v : α) : List (String × α) → List (String × α)
  | [] => [(x, v)]
  | (y, w) :: rest =>
    if x < y then (x, v) :: (y, w) :: rest
    else if x = y then (x, v) :: rest
    else (y, w) :: putSorted x v rest

theorem keys_putSorted (x : String) (v : α) (es : List (String × α)) :
    (putSorted x v es).map Prod.fst = NameSet.insertSorted x (es.map Prod.fst) := by
  induction es with
  | nil => rfl
  | cons e rest ih =>
    obtain ⟨y, w⟩ := e
    simp only [putSorted, List.map_cons, NameSet.insertSorted]
    split
    · rfl
    · split
      · rename_i h; subst h; rfl
      · simp [ih]

def insert (m : NameMap α) (x : String) (v : α) : NameMap α :=
  ⟨putSorted x v m.entries, by
    rw [keys_putSorted]; exact NameSet.pairwise_insertSorted m.increasing⟩

def erase (m : NameMap α) (x : String) : NameMap α :=
  ⟨m.entries.filter fun e => e.1 != x,
    m.increasing.sublist (List.filter_sublist.map Prod.fst)⟩

/-- The entries whose value satisfies a condition. -/
def keep (m : NameMap α) (p : α → Bool) : NameMap α :=
  ⟨m.entries.filter fun e => p e.2, m.increasing.sublist (List.filter_sublist.map Prod.fst)⟩

/-- The map of a list of entries. Of two values of a name the last counts. -/
def ofList (es : List (String × α)) : NameMap α :=
  es.foldl (fun m e => m.insert e.1 e.2) empty

def find? (m : NameMap α) (x : String) : Option α :=
  (m.entries.find? fun e => e.1 == x).map Prod.snd

theorem putSorted_append {x : String} {v : α} {es : List (String × α)}
    (h : ∀ e ∈ es, e.1 < x) : putSorted x v es = es ++ [(x, v)] := by
  induction es with
  | nil => rfl
  | cons e rest ih =>
    obtain ⟨y, w⟩ := e
    have hy : y < x := h (y, w) (List.mem_cons_self ..)
    rw [putSorted, if_neg (String.lt_asymm hy), if_neg fun e => String.lt_irrefl y (by rw [e] at hy; exact hy),
      ih fun e he => h e (List.mem_cons_of_mem _ he), List.cons_append]

theorem entries_foldl_insert (es : List (String × α)) :
    ∀ m : NameMap α, ((m.entries ++ es).map Prod.fst).Pairwise (· < ·) →
      (es.foldl (fun m e => m.insert e.1 e.2) m).entries = m.entries ++ es := by
  induction es with
  | nil => intro m _; simp
  | cons e rest ih =>
    intro m h
    have hlt : ∀ a ∈ m.entries, a.1 < e.1 := fun a ha => by
      rw [List.map_append, List.pairwise_append] at h
      exact h.2.2 a.1 (List.mem_map_of_mem ha) e.1 (by simp)
    have hput : (m.insert e.1 e.2).entries = m.entries ++ [e] := putSorted_append hlt
    rw [List.foldl_cons, ih (m.insert e.1 e.2) (by rw [hput]; simpa using h), hput,
      List.append_assoc, List.singleton_append]

/-- The entries of a map give the map back. -/
theorem ofList_entries (m : NameMap α) : ofList m.entries = m := by
  have h := entries_foldl_insert m.entries empty (by simpa [empty] using m.increasing)
  cases m with
  | mk entries increasing =>
    have h' : (ofList entries).entries = entries := by simpa [ofList, empty] using h
    generalize ofList entries = n at h'
    cases n; cases h'; rfl

end NameMap

end ScopedAccess
