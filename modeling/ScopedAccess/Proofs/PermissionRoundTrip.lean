import ScopedAccess.Proofs.AttributeSide
import ScopedAccess.Proofs.Catalog
import ScopedAccess.Proofs.FilterGrammar

/-!
# ScopedAccess.Proofs.PermissionRoundTrip

Permissions written as JSON and read back.

* `reread` is what a filter or a permission becomes that way: its values are trimmed, and blank ones
  are lost. `ofJson_toJson` and `ofJson?_toJson` say that this is so.
* `reread_ofJson`: what was read before is read back as it was.
* `grantsAlike_reread`: whatever is changed never granted anything.
* `reread_keeps_decisions`: permissions that were read come back equal, and all permissions lead to
  the same decision as before.
-/

namespace ScopedAccess

open Json Text

/-! ## Filters -/

namespace AttributeFilter

/-- What a filter is read back as. -/
def reread : AttributeFilter → AttributeFilter
  | equal key value => ofValue key value
  | oneOf key values => ofTrimmed key values.toList
  | unrecognized => unrecognized

theorem ofJson_toJson (f : AttributeFilter) : ofJson f.toJson = f.reread := by
  cases f with
  | equal key value =>
    have hequal : lower "equal" = "equal" := by decide
    rw [toJson, ofJson_obj rfl rfl, if_pos hequal]
    rfl
  | oneOf key values =>
    have hin : lower "in" = "in" := by decide
    rw [toJson, ofJson_obj rfl rfl, hin, if_neg (by decide), if_pos rfl]
    exact among_strings key values.toList
  | unrecognized => rfl

theorem trimmed_eq_self {items : List String} (h : ∀ x ∈ items, trim x = x ∧ x ≠ "") :
    trimmed items = items := by
  have hmap : items.map trim = items :=
    (List.map_congr_left fun x hx => (h x hx).1).trans (List.map_id items)
  rw [trimmed, hmap, List.filter_eq_self]
  intro x hx
  rw [Bool.not_eq_true', ← Bool.not_eq_true, String.isEmpty_iff]
  exact (h x hx).2

/-- The values of a filter that a raw value spells are trimmed and not blank, so nothing is left to
change when the filter is read again. -/
theorem reread_of_spelled {raw : Json} {f : AttributeFilter} (h : Spelled raw f) :
    f.reread = f := by
  cases h with
  | @equal _ key _ text _ _ _ _ _ _ hpresent =>
    have hkept : ¬ isBlankText (trim text) = true := by
      rw [isBlankText_iff, trim_trim]
      exact hpresent
    rw [reread, ofValue, if_neg hkept, trim_trim]
  | @oneOf _ key _ _ items values _ _ _ _ _ hpresent hvalues =>
    have hkept : trimmed values.toList = values.toList := by
      refine trimmed_eq_self fun z hz => ?_
      obtain ⟨hne, x, -, rfl⟩ := (hvalues z).1 hz
      exact ⟨trim_trim x, hne⟩
    have hsome : ¬ values.toList.isEmpty = true := by
      obtain ⟨x, hx, hne⟩ := hpresent
      have hmem : trim x ∈ values := (hvalues (trim x)).2 ⟨hne, x, hx, rfl⟩
      rw [List.isEmpty_iff]
      exact List.ne_nil_of_mem hmem
    rw [reread, ofTrimmed_eq, hkept, if_neg hsome, NameSet.ofList_toList]

/-- A filter that was read is read back as it was. -/
theorem reread_ofJson (raw : Json) : (ofJson raw).reread = ofJson raw := by
  by_cases h : ofJson raw = .unrecognized
  · rw [h]
    rfl
  · exact reread_of_spelled (spelled_of_ofJson rfl h)

theorem values_reread {f : AttributeFilter} {z : String} :
    z ∈ f.reread.values ↔ z ≠ "" ∧ ∃ v ∈ f.values, trim v = z := by
  cases f with
  | equal key value =>
    by_cases hblank : trim value = ""
    · simp [reread, ofValue, isBlankText_iff.2 hblank, values, hblank, eq_comm]
    · have hkept : ¬ isBlankText value = true := mt isBlankText_iff.1 hblank
      rw [reread, ofValue, if_neg hkept]
      simp only [values, List.mem_singleton, exists_eq_left]
      constructor
      · rintro rfl
        exact ⟨hblank, rfl⟩
      · exact fun h => h.2.symm
  | oneOf key vs =>
    rw [reread, ofTrimmed_eq, values, ← mem_trimmed]
    by_cases hnone : trimmed vs.toList = []
    · rw [hnone]
      rfl
    · rw [if_neg (mt List.isEmpty_iff.1 hnone)]
      exact NameSet.mem_ofList
  | unrecognized => simp [reread, values]

theorem isOnServices_reread {f : AttributeFilter} (h : f.reread ≠ .unrecognized) :
    f.reread.isOnServices = f.isOnServices := by
  cases f with
  | equal key value =>
    rw [reread, ofValue] at h ⊢
    split at h
    · exact absurd rfl h
    · rename_i hkept
      rw [if_neg hkept]
      rfl
  | oneOf key vs =>
    rw [reread, ofTrimmed_eq] at h ⊢
    split at h
    · exact absurd rfl h
    · rename_i hkept
      rw [if_neg hkept]
      rfl
  | unrecognized => rfl

/-- A filter that is read back comes to the same services: values are told apart without the blanks
around them, and a blank value is no service of any catalog. -/
theorem grantsAlike_reread (f : AttributeFilter) (catalog : Catalog) :
    f.GrantsAlike catalog f.reread := by
  intro id
  constructor
  · rintro ⟨v, hv, hresolve⟩
    obtain ⟨hservice, hmem⟩ := mem_serviceValues.1 hv
    have hpresent : trim v ≠ "" := by
      intro hblank
      rw [Catalog.resolve_of_blank hblank] at hresolve
      cases hresolve
    have hkept : trim v ∈ f.reread.values := values_reread.2 ⟨hpresent, v, hmem, rfl⟩
    have hne : f.reread ≠ .unrecognized := by
      intro h
      rw [h] at hkept
      cases hkept
    refine ⟨trim v, mem_serviceValues.2 ⟨?_, hkept⟩, ?_⟩
    · rw [isOnServices_reread hne, hservice]
    · rw [Catalog.resolve_trim, hresolve]
  · rintro ⟨z, hz, hresolve⟩
    obtain ⟨hservice, hmem⟩ := mem_serviceValues.1 hz
    obtain ⟨-, v, hv, rfl⟩ := values_reread.1 hmem
    have hne : f.reread ≠ .unrecognized := by
      intro h
      rw [h] at hmem
      cases hmem
    refine ⟨v, mem_serviceValues.2 ⟨?_, hv⟩, ?_⟩
    · rw [← isOnServices_reread hne, hservice]
    · rw [← Catalog.resolve_trim, hresolve]

end AttributeFilter

/-! ## Permissions -/

namespace Permission

/-- What a permission is read back as. -/
def reread (q : Permission) : Permission := ⟨q.name, q.filters.map AttributeFilter.reread⟩

theorem holdsWords_toJson (f : AttributeFilter) : f.toJson.holdsWords = true := by
  have hstrings : ∀ xs : List String, itemsHoldWords (xs.map .str) = true := by
    intro xs
    induction xs with
    | nil => rfl
    | cons x xs ih => simp [itemsHoldWords, holdsWords, ih]
  cases f <;> simp [AttributeFilter.toJson, holdsWords, membersHoldWords, strings, hstrings]

theorem holdsWords_definitions (filters : List AttributeFilter) :
    (Json.arr (filters.map fun f => .obj [("attributeFilter", f.toJson)])).holdsWords = true := by
  rw [holdsWords]
  induction filters with
  | nil => rfl
  | cons f filters ih =>
    simp [itemsHoldWords, holdsWords, membersHoldWords, holdsWords_toJson, ih]

theorem filterOfDefinition_toJson (f : AttributeFilter) :
    filterOfDefinition (.obj [("attributeFilter", f.toJson)]) = f.reread :=
  f.ofJson_toJson

theorem ofJson?_toJson (p : Place) (q : Permission) : ofJson? p q.toJson = some q.reread := by
  have hfilters : filtersOfDefinitions?
      (.arr (q.filters.map fun f => .obj [("attributeFilter", f.toJson)])) =
        some (q.filters.map AttributeFilter.reread) := by
    rw [filtersOfDefinitions?, if_pos (holdsWords_definitions q.filters), filtersOfDefinitions,
      List.map_map]
    simp only [Function.comp_def, filterOfDefinition_toJson]
  have hdefined : defaulted
      (fun name => find? name [("permission", .str q.name), ("resourceDefinitions",
        .arr (q.filters.map fun f => .obj [("attributeFilter", f.toJson)]))])
      "resourceDefinitions" filtersOfDefinitions? [] =
        some (q.filters.map AttributeFilter.reread) := hfilters
  rw [ofJson?, toJson, openRecord?]
  simp only [hdefined]
  rfl

theorem reread_of_mem_rawFilters {raw : Json} {f : AttributeFilter} (h : f ∈ rawFilters raw) :
    f.reread = f := by
  have hdefinition : ∀ d, (filterOfDefinition d).reread = filterOfDefinition d := by
    intro d
    rw [filterOfDefinition]
    split
    · exact AttributeFilter.reread_ofJson _
    · rfl
  unfold rawFilters at h
  split at h
  · rename_i definitions _
    cases definitions with
    | null => cases h
    | arr items =>
      obtain ⟨d, -, rfl⟩ := List.mem_map.1 h
      exact hdefinition d
    | _ =>
      rw [List.mem_singleton.1 h]
      rfl
  · cases h

/-- A permission that was read is read back as it was. -/
theorem reread_of_ofJson? {p : Place} {raw : Json} {q : Permission} (h : ofJson? p raw = some q) :
    q.reread = q := by
  obtain ⟨name, filters⟩ := q
  obtain ⟨-, hfilters⟩ := ofJson?_eq_some h
  obtain rfl : filters = rawFilters raw := hfilters
  have hmap : (rawFilters raw).map AttributeFilter.reread = rawFilters raw :=
    (List.map_congr_left fun f hf => reread_of_mem_rawFilters hf).trans (List.map_id _)
  rw [reread, hmap]

theorem grantsAlike_reread (catalog : Catalog) (q : Permission) :
    q.GrantsAlike catalog q.reread := by
  refine ⟨rfl, List.forall₂_map_right_iff.2 ?_⟩
  exact List.forall₂_same.2 fun f _ => f.grantsAlike_reread catalog

/-! ## Lists of permissions -/

open AttributeResolution (resolve resolve_grantsAlike)

theorem readList_toJson (p : Place) (permissions : List Permission) :
    readList (ofJson? p) (.arr (permissions.map toJson)) = some (permissions.map reread) := by
  rw [readList, readAll_eq_some, List.map_map, List.map_map]
  exact List.map_congr_left fun q _ => ofJson?_toJson p q

/-- Permissions written as JSON and read back. One that was read before comes back equal. Any other
keeps its name and comes back without filters only if it had none; and a list of any permissions
leads to the same decision as before, for every required name and every catalog. -/
theorem reread_keeps_decisions (p : Place) :
    (∀ p' raw q, ofJson? p' raw = some q → ofJson? p q.toJson = some q) ∧
    (∀ q : Permission, ∃ q', ofJson? p q.toJson = some q' ∧ q'.name = q.name ∧
      (q'.filters = [] ↔ q.filters = [])) ∧
    ∀ permissions : List Permission, ∃ back,
      readList (ofJson? p) (.arr (permissions.map toJson)) = some back ∧
      ∀ required catalog,
        (resolve back required catalog).decision =
          (resolve permissions required catalog).decision := by
  refine ⟨fun p' raw q h => ?_, fun q => ?_, fun permissions => ?_⟩
  · rw [ofJson?_toJson, reread_of_ofJson? h]
  · exact ⟨q.reread, ofJson?_toJson p q, rfl, List.map_eq_nil_iff⟩
  · refine ⟨_, readList_toJson p permissions, fun required catalog => ?_⟩
    have halike : List.Forall₂ (GrantsAlike catalog) permissions (permissions.map reread) :=
      List.forall₂_map_right_iff.2 (List.forall₂_same.2 fun q _ => grantsAlike_reread catalog q)
    exact (resolve_grantsAlike halike required).symm

/-- An entry with a broken definition comes back as it was read. Filters with blanks around a value,
with a blank value and with none at all come back as others, and the decision stays. -/
theorem reread_keeps_decisions_of_blank_values :
    let raw : Json := .arr [.str "run:read", .arr [.null, .obj [("attributeFilter",
      .obj [("key", .str "service"), ("operation", .str "In"), ("value", .str "tasks ,, patch")])]]]
    let q : Permission := ⟨"run:read",
      [.unrecognized, .oneOf "service" (.ofList ["patch", "tasks"])]⟩
    let built : List Permission := [⟨"run:read", [.equal "service" " Config-Manager ",
      .equal "service" " ", .oneOf "service" (.ofList ["", "tasks, patch"]), .oneOf "service" ∅]⟩]
    let back : List Permission := [⟨"run:read", [.equal "service" "Config-Manager",
      .unrecognized, .oneOf "service" (.ofList ["tasks, patch"]), .unrecognized]⟩]
    let catalog := Catalog.ofIds ["tasks", "config_manager"]
    ofJson? .message raw = some q ∧ ofJson? .message q.toJson = some q ∧
      readList (ofJson? .message) (.arr (built.map toJson)) = some back ∧
      (resolve back "run:read" catalog).decision = (resolve built "run:read" catalog).decision := by
  intro raw q built back catalog
  have hraw : ofJson? .message raw = some q := by decide +kernel
  have hback : readList (ofJson? .message) (.arr (built.map toJson)) = some back := by
    decide +kernel
  obtain ⟨hsame, -, hlists⟩ := reread_keeps_decisions .message
  obtain ⟨back', hback', hdecision⟩ := hlists built
  obtain rfl : back = back' := Option.some.inj (hback.symm.trans hback')
  exact ⟨hraw, hsame .message raw q hraw, hback, hdecision "run:read" catalog⟩

end Permission

end ScopedAccess
