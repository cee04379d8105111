import ScopedAccess.Json.Record

/-!
# ScopedAccess.Proofs.Json

Laws of reading values.

* `readAll_eq_some`: a list is read item by item.
* `readBelow_lt`: a number that is read is below its limit.
* `closedRecord?_obj`: the members of a closed record all have the names of fields.
* `eq_fieldOf?`: a field stands under its name in an object, or at its position in a list.
* `optional_of_map`: a field that may be missing is read as what was written, or not written.
-/

namespace ScopedAccess.Json

/-- A list is read if and only if each of its values is. -/
theorem readAll_eq_some {read : Json → Option α} {vs : List Json} {as : List α} :
    readAll read vs = some as ↔ vs.map read = as.map some := by
  induction vs generalizing as with
  | nil => cases as <;> simp [readAll]
  | cons v vs ih =>
    cases as with
    | nil =>
      simp only [readAll, List.map_cons, List.map_nil, reduceCtorEq, iff_false]
      cases read v with
      | none => simp
      | some a => cases readAll read vs <;> simp
    | cons a as =>
      rw [List.map_cons, List.map_cons, List.cons.injEq, ← ih, readAll]
      cases read v with
      | none => simp
      | some b => cases readAll read vs <;> simp

/-! ## Strings, truth values and numbers -/

@[simp] theorem readStr_str (p : Place) (s : String) : readStr p (.str s) = some s := rfl

@[simp] theorem readBool_bool (b : Bool) : readBool (.bool b) = some b := rfl

theorem readBelow_lt {limit n : Nat} {v : Json} (hlimit : 0 < limit)
    (h : readBelow limit v = some n) : n < limit := by
  unfold readBelow at h
  split at h
  · split at h
    · cases h
      omega
    · cases h
  · cases h
    exact hlimit
  · cases h

theorem required_lt {f : Fields} {name : String} {limit n : Nat} (hlimit : 0 < limit)
    (h : required f name (readBelow limit) = some n) : n < limit := by
  unfold required at h
  split at h
  · cases h
  · exact readBelow_lt hlimit h

theorem defaulted_lt {f : Fields} {name : String} {limit value n : Nat} (hvalue : value < limit)
    (h : defaulted f name (readBelow limit) value = some n) : n < limit := by
  unfold defaulted at h
  split at h
  · cases h
    exact hvalue
  · exact readBelow_lt (Nat.zero_lt_of_lt hvalue) h

/-! ## Records -/

/-- A field of a record: by its name in an object, by its position in a list. -/
def fieldOf? (names : List String) (name : String) : Json → Option Json
  | .obj ms => find? name ms
  | .arr vs => find? name (names.zip vs)
  | _ => none

theorem eq_fieldOf? {p : Place} {names : List String} {v : Json} {f : Fields}
    (h : closedRecord? p names v = some f) (name : String) : f name = fieldOf? names name v := by
  cases v with
  | obj ms =>
    simp only [closedRecord?] at h
    split at h
    · cases h
      rfl
    · cases h
  | arr vs =>
    simp only [closedRecord?, openRecord?] at h
    split at h
    · cases h
      rfl
    · cases h
  | _ => cases h

theorem closedRecord?_obj {p : Place} {names : List String} {ms : List (String × Json)}
    {f : Fields} :
    closedRecord? p names (.obj ms) = some f ↔
      (∀ m ∈ ms, m.1 ∈ names) ∧ f = fun name => find? name ms := by
  rw [closedRecord?]
  simp only [List.all_eq_true, List.contains_iff_mem]
  split
  · rename_i h
    rw [Option.some.injEq, eq_comm, and_iff_right h]
  · rename_i h
    exact ⟨fun e => (by cases e), fun e => absurd e.1 h⟩

theorem required_of_field {f : Fields} {name : String} {v : Json} (h : f name = some v)
    (read : Json → Option α) : required f name read = read v := by
  rw [required, h]

theorem defaulted_of_field {f : Fields} {name : String} {v : Json} (h : f name = some v)
    (read : Json → Option α) (value : α) : defaulted f name read value = read v := by
  rw [defaulted, h]

theorem optional_of_field {f : Fields} {name : String} {v : Json} (h : f name = some v)
    (read : Json → Option α) : Json.optional f name read = nullable read v :=
  defaulted_of_field h (nullable read) none

/-- A field that is left out where there is nothing is read as what was written. -/
theorem optional_of_map {f : Fields} {name : String} {write : α → Json} {read : Json → Option α}
    {x : Option α} (h : f name = x.map write)
    (hread : ∀ a, nullable read (write a) = some (some a)) :
    Json.optional f name read = some x := by
  rw [Json.optional, defaulted, h]
  cases x with
  | none => rfl
  | some a => exact hread a

/-- Leaving out members of one name does not touch the others. -/
theorem find?_filter_ne {tag name : String} (h : name ≠ tag) (ms : List (String × Json)) :
    find? name (ms.filter fun m => m.1 != tag) = find? name ms := by
  induction ms with
  | nil => rfl
  | cons m ms ih =>
    obtain ⟨n, v⟩ := m
    by_cases hn : n = tag
    · have hname : n ≠ name := fun e => h (e.symm.trans hn)
      rw [List.filter_cons_of_neg (by simp [hn]), ih, find?, if_neg hname]
    · rw [List.filter_cons_of_pos (by simp [hn]), find?, find?, ih]

end ScopedAccess.Json
