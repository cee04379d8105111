import Mathlib.Data.List.Nodup
import ScopedAccess.Catalog

/-!
# ScopedAccess.Proofs.Catalog

What a catalog makes of a name.

* `eq_of_serviceKey_eq`: a catalog lists a service once.
* `resolve_eq_some`: a name resolves to the entry that spells the same service.
* `resolve_trim` and `resolve_of_blank`: blanks around a name do not matter, and a blank name is no
  service.
* `ofIds_ids`: the entries of a catalog give the catalog back.
-/

namespace ScopedAccess

theorem serviceKey_trim (name : String) : serviceKey (Text.trim name) = serviceKey name := by
  rw [serviceKey, serviceKey, Text.toList_trim, Text.trimChars_trimChars]

theorem serviceKey_of_blank {name : String} (h : Text.trim name = "") : serviceKey name = "" := by
  rw [← serviceKey_trim, h]
  decide

/-- Names that are trimmed, not blank and of different services are all kept. -/
theorem distinctServices_of_distinct {ids : List String} :
    ∀ {seen : List String}, (ids.map serviceKey).Nodup → "" ∉ ids.map serviceKey →
      (∀ key ∈ ids.map serviceKey, key ∉ seen) → (∀ id ∈ ids, Text.trim id = id) →
      distinctServices seen ids = ids := by
  induction ids with
  | nil => intros; rfl
  | cons id rest ih =>
    intro seen hnodup hblank hseen htrim
    rw [List.map_cons, List.nodup_cons] at hnodup
    rw [List.map_cons, List.mem_cons, not_or] at hblank
    rw [List.map_cons, List.forall_mem_cons] at hseen
    rw [List.forall_mem_cons] at htrim
    have hkept : ¬ (serviceKey id = "" ∨ serviceKey id ∈ seen) :=
      not_or.2 ⟨fun e => hblank.1 e.symm, hseen.1⟩
    have hnew : ∀ key ∈ rest.map serviceKey, key ∉ serviceKey id :: seen := fun key hkey hmem =>
      (List.mem_cons.1 hmem).elim (fun e => hnodup.1 (e ▸ hkey)) (hseen.2 key hkey)
    simp only [distinctServices, htrim.1, if_neg hkept, ih hnodup.2 hblank.2 hnew htrim.2]

namespace Catalog

variable {c : Catalog}

theorem eq_of_serviceKey_eq {id id' : String} (hid : id ∈ c.ids) (hid' : id' ∈ c.ids)
    (h : serviceKey id = serviceKey id') : id = id' :=
  List.inj_on_of_nodup_map c.distinct.1 hid hid' h

theorem resolve_eq_some {name id : String} :
    c.resolve name = some id ↔ id ∈ c.ids ∧ serviceKey id = serviceKey name := by
  constructor
  · intro h
    exact ⟨List.mem_of_find?_eq_some h, by simpa using List.find?_some h⟩
  · rintro ⟨hid, hkey⟩
    cases hr : c.resolve name with
    | none =>
      have hnone := List.find?_eq_none.1 hr id hid
      exact absurd (beq_iff_eq.2 hkey) hnone
    | some id' =>
      have hid' := List.mem_of_find?_eq_some hr
      have hkey' : serviceKey id' = serviceKey name := by simpa using List.find?_some hr
      rw [eq_of_serviceKey_eq hid' hid (hkey'.trans hkey.symm)]

theorem resolve_congr {name name' : String} (h : serviceKey name = serviceKey name') :
    c.resolve name = c.resolve name' := by
  rw [resolve, resolve, h]

theorem resolve_trim (name : String) : c.resolve (Text.trim name) = c.resolve name :=
  resolve_congr (serviceKey_trim name)

theorem resolve_of_blank {name : String} (h : Text.trim name = "") : c.resolve name = none := by
  refine Option.eq_none_iff_forall_ne_some.2 fun id hid => ?_
  obtain ⟨hmem, hkey⟩ := resolve_eq_some.1 hid
  rw [serviceKey_of_blank h] at hkey
  exact c.distinct.2 (hkey ▸ List.mem_map_of_mem hmem)

theorem eq_of_ids_eq {c' : Catalog} (h : c.ids = c'.ids) : c = c' := by
  cases c
  cases c'
  cases h
  rfl

/-- The entries of a catalog give the catalog back. -/
theorem ofIds_ids (c : Catalog) : ofIds c.ids = c :=
  eq_of_ids_eq (distinctServices_of_distinct c.distinct.1 c.distinct.2
    (fun _ _ => List.not_mem_nil) c.trimmed)

end Catalog

end ScopedAccess
