import Mathlib.Data.List.Forall2
import ScopedAccess.AttributeSide
import ScopedAccess.Permission.Codec
import ScopedAccess.Proofs.Decision
import ScopedAccess.Proofs.Json

/-!
# ScopedAccess.Proofs.AttributeSide

What an attribute resolution comes to, said of the raw entries that the permissions are read from.

* `resolve_grantsAlike`: the decision depends on what each filter comes to in the catalog.
* `rawName?` and `rawDefinitions?` are the parts of an entry, in either of its two shapes.
* `rawFilters_eq_nil_iff`: only an entry without definitions is read as a permission without filters.
* `resolve_raw_exact`: the resolution, case by case.
-/

namespace ScopedAccess

namespace AttributeFilter

/-- The values a filter grants if its key is `service`, up to letter case and the blanks around
it. -/
def serviceValues (f : AttributeFilter) : List String :=
  match f.key? with
  | some key => if Text.lower (Text.trim key) = "service" then f.values else []
  | none => []

theorem serviceValues_eq (f : AttributeFilter) :
    f.serviceValues = if f.isOnServices = true then f.values else [] := by
  have hservice : Text.lower serviceProperty = "service" := by decide +kernel
  unfold serviceValues isOnServices
  cases f.key? with
  | none => rfl
  | some key => simp only [Text.sameLetters, hservice, beq_iff_eq]

theorem mem_serviceValues {f : AttributeFilter} {v : String} :
    v ∈ f.serviceValues ↔ f.isOnServices = true ∧ v ∈ f.values := by
  rw [serviceValues_eq]
  split <;> simp [*]

/-- Two filters come to the same services of a catalog. -/
def GrantsAlike (catalog : Catalog) (f g : AttributeFilter) : Prop :=
  ∀ id, (∃ v ∈ f.serviceValues, catalog.resolve v = some id) ↔
    ∃ v ∈ g.serviceValues, catalog.resolve v = some id

theorem isRecognized_of_isOnServices {f : AttributeFilter} (h : f.isOnServices = true) :
    f.isRecognized = true := by
  cases f with
  | unrecognized => cases h
  | _ => rfl

end AttributeFilter

/-- Two permissions of one name whose filters come to the same services of a catalog, one by one. -/
structure Permission.GrantsAlike (catalog : Catalog) (p q : Permission) : Prop where
  name : p.name = q.name
  filters : List.Forall₂ (AttributeFilter.GrantsAlike catalog) p.filters q.filters

namespace Permission

/-- A field of a raw entry: by its name in an object, by its position in a list. -/
def rawField? (name : String) (position : Nat) : Json → Option Json
  | .obj members => Json.find? name members
  | .arr items => items[position]?
  | _ => none

/-- The name of a raw entry. -/
def rawName? (p : Json.Place) (raw : Json) : Option String :=
  (rawField? "permission" 0 raw).bind (Json.readStr p)

def rawDefinitions? (raw : Json) : Option Json := rawField? "resourceDefinitions" 1 raw

/-- The resource definitions of a raw entry are missing, null or an empty list. -/
def Undefined (raw : Json) : Prop :=
  rawDefinitions? raw = none ∨ rawDefinitions? raw = some .null ∨
    rawDefinitions? raw = some (.arr [])

/-- The filters of a raw entry that can be read. -/
def readableFilters (raw : Json) : List AttributeFilter :=
  match rawDefinitions? raw with
  | some (.arr definitions) =>
    (definitions.map filterOfDefinition).filter AttributeFilter.isRecognized
  | _ => []

/-- The definitions of a raw entry that cannot be read. What is no list counts as one. -/
def unreadable (raw : Json) : List Json :=
  match rawDefinitions? raw with
  | some (.arr definitions) => definitions.filter fun d => !(filterOfDefinition d).isRecognized
  | none => []
  | some .null => []
  | some definitions => [definitions]

def rawFilters (raw : Json) : List AttributeFilter :=
  match rawDefinitions? raw with
  | some definitions => filtersOfDefinitions definitions
  | none => []

theorem fields_of_openRecord? {p : Json.Place} {raw : Json} {f : Json.Fields}
    (h : Json.openRecord? p ["permission", "resourceDefinitions"] raw = some f) :
    f "permission" = rawField? "permission" 0 raw ∧
      f "resourceDefinitions" = rawField? "resourceDefinitions" 1 raw := by
  cases raw with
  | obj members => cases h; exact ⟨rfl, rfl⟩
  | arr items =>
    simp only [Json.openRecord?] at h
    split at h
    · cases h
      cases items with
      | nil => exact ⟨rfl, rfl⟩
      | cons v items => cases items <;> simp [Json.find?, rawField?]
    · cases h
  | _ => cases h

theorem ofJson?_eq_some {p : Json.Place} {raw : Json} {permission : Permission}
    (h : ofJson? p raw = some permission) :
    rawName? p raw = some permission.name ∧ permission.filters = rawFilters raw := by
  unfold ofJson? at h
  cases hf : Json.openRecord? p ["permission", "resourceDefinitions"] raw with
  | none => simp [hf] at h
  | some f =>
    obtain ⟨hname, hdefs⟩ := fields_of_openRecord? hf
    simp only [hf, Json.required, Json.defaulted, hname, hdefs] at h
    split at h
    · rename_i name filters hn hd
      cases h
      refine ⟨?_, ?_⟩
      · rw [rawName?]
        split at hn
        · cases hn
        · rename_i v hv
          rw [hv, Option.bind_some, hn]
      · rw [rawFilters, rawDefinitions?]
        split at hd
        · rename_i hnone
          cases hd
          rw [hnone]
        · rename_i v hv
          rw [filtersOfDefinitions?] at hd
          split at hd
          · cases hd
            rw [hv]
          · cases hd
    · cases h

theorem rawFilters_eq_nil_iff {raw : Json} : rawFilters raw = [] ↔ Undefined raw := by
  unfold rawFilters Undefined
  cases rawDefinitions? raw with
  | none => simp
  | some definitions => cases definitions <;> simp [filtersOfDefinitions]

theorem filter_isRecognized_rawFilters (raw : Json) :
    (rawFilters raw).filter AttributeFilter.isRecognized = readableFilters raw := by
  unfold rawFilters readableFilters
  cases rawDefinitions? raw with
  | none => rfl
  | some definitions => cases definitions <;> rfl

theorem length_unrecognized_rawFilters (raw : Json) :
    ((rawFilters raw).filter fun f => !f.isRecognized).length = (unreadable raw).length := by
  unfold rawFilters unreadable
  cases rawDefinitions? raw with
  | none => rfl
  | some definitions =>
    cases definitions with
    | arr items => simp [filtersOfDefinitions, List.filter_map, Function.comp_def]
    | _ => rfl

end Permission

namespace AttributeResolution

/-- The raw entries of a name. -/
def matchingEntries (p : Json.Place) (required : String) (raws : List Json) : List Json :=
  raws.filter fun raw => Permission.rawName? p raw == some required

theorem mem_matchingEntries {p : Json.Place} {required : String} {raws : List Json} {raw : Json} :
    raw ∈ matchingEntries p required raws ↔
      raw ∈ raws ∧ Permission.rawName? p raw = some required := by
  rw [matchingEntries, List.mem_filter, beq_iff_eq]

theorem filters_matching {p : Json.Place} {raws : List Json} {permissions : List Permission}
    (h : Json.readAll (Permission.ofJson? p) raws = some permissions) (required : String) :
    (matching permissions required).map Permission.filters =
      (matchingEntries p required raws).map Permission.rawFilters := by
  rw [Json.readAll_eq_some] at h
  induction raws generalizing permissions with
  | nil =>
    cases permissions with
    | nil => rfl
    | cons _ _ => cases h
  | cons raw raws ih =>
    cases permissions with
    | nil => cases h
    | cons permission permissions =>
      rw [List.map_cons, List.map_cons, List.cons.injEq] at h
      obtain ⟨hname, hfilters⟩ := Permission.ofJson?_eq_some h.1
      have hrest := ih h.2
      unfold matching matchingEntries at hrest ⊢
      by_cases hn : permission.name = required
      · simp [hname, hn, hfilters, hrest]
      · simp [hname, hn, hrest]

/-- The values of the filters whose key is `service`, up to letter case and the blanks around it. -/
def serviceValues (filters : List AttributeFilter) : List String :=
  filters.flatMap AttributeFilter.serviceValues

theorem grantedValues_eq (filters : List AttributeFilter) :
    grantedValues filters = serviceValues (filters.filter AttributeFilter.isRecognized) := by
  induction filters with
  | nil => rfl
  | cons f filters ih =>
    unfold grantedValues serviceValues at ih ⊢
    by_cases hs : f.isOnServices = true
    · have hr := AttributeFilter.isRecognized_of_isOnServices hs
      rw [List.filter_cons_of_pos hs, List.filter_cons_of_pos hr, List.flatMap_cons,
        List.flatMap_cons, ih, AttributeFilter.serviceValues_eq, if_pos hs]
    · rw [List.filter_cons_of_neg hs, ih]
      by_cases hr : f.isRecognized = true
      · rw [List.filter_cons_of_pos hr, List.flatMap_cons, AttributeFilter.serviceValues_eq,
          if_neg hs, List.nil_append]
      · rw [List.filter_cons_of_neg hr]

theorem ofFilters_restrictsTo (filters : List AttributeFilter) (catalog : Catalog) :
    (ofFilters filters catalog).decision.RestrictsTo .attribute
      (fun id => ∃ v ∈ serviceValues (filters.filter AttributeFilter.isRecognized),
        catalog.resolve v = some id)
      .emptyServiceScope := by
  rw [← grantedValues_eq]
  refine Decision.restricted_restrictsTo _ _ fun id => ?_
  rw [NameSet.mem_ofList, List.mem_filterMap]

section Alike

variable {catalog : Catalog} {ps qs : List Permission} {fs gs : List AttributeFilter}

theorem isEmpty_of_forall₂ {R : α → β → Prop} {as : List α} {bs : List β}
    (h : List.Forall₂ R as bs) : as.isEmpty = bs.isEmpty := by
  cases h <;> rfl

theorem any_unfiltered_alike (h : List.Forall₂ (Permission.GrantsAlike catalog) ps qs) :
    (ps.any fun p => p.filters.isEmpty) = qs.any fun q => q.filters.isEmpty := by
  induction h with
  | nil => rfl
  | cons hpq _ ih => rw [List.any_cons, List.any_cons, ih, isEmpty_of_forall₂ hpq.filters]

theorem grantedValues_eq_flatMap (filters : List AttributeFilter) :
    grantedValues filters = filters.flatMap AttributeFilter.serviceValues := by
  unfold grantedValues
  induction filters with
  | nil => rfl
  | cons f filters ih =>
    rw [List.flatMap_cons, ← ih, AttributeFilter.serviceValues_eq]
    by_cases hs : f.isOnServices = true
    · rw [if_pos hs, List.filter_cons_of_pos hs, List.flatMap_cons]
    · rw [if_neg hs, List.filter_cons_of_neg hs, List.nil_append]

theorem exists_granted_alike (h : List.Forall₂ (AttributeFilter.GrantsAlike catalog) fs gs)
    (id : String) :
    (∃ v ∈ grantedValues fs, catalog.resolve v = some id) ↔
      ∃ v ∈ grantedValues gs, catalog.resolve v = some id := by
  rw [grantedValues_eq_flatMap, grantedValues_eq_flatMap]
  induction h with
  | nil => rfl
  | cons hfg _ ih =>
    simp only [List.flatMap_cons, List.mem_append, or_and_right, exists_or, ih, hfg id]

/-- Filters that come to the same services of the catalog lead to the same decision. -/
theorem resolve_grantsAlike (h : List.Forall₂ (Permission.GrantsAlike catalog) ps qs)
    (required : String) :
    (resolve ps required catalog).decision = (resolve qs required catalog).decision := by
  have hfound : List.Forall₂ (Permission.GrantsAlike catalog) (matching ps required)
      (matching qs required) :=
    List.rel_filter (fun p q hpq => by simp only [hpq.name]) h
  simp only [resolve, isEmpty_of_forall₂ hfound, any_unfiltered_alike hfound]
  split
  · rfl
  · split
    · rfl
    · have hfilters : List.Forall₂ (AttributeFilter.GrantsAlike catalog)
          ((matching ps required).flatMap Permission.filters)
          ((matching qs required).flatMap Permission.filters) :=
        List.rel_flatMap hfound fun _ _ hpq => hpq.filters
      have hsame : NameSet.ofList ((grantedValues ((matching ps required).flatMap
            Permission.filters)).filterMap catalog.resolve) =
          .ofList ((grantedValues ((matching qs required).flatMap
            Permission.filters)).filterMap catalog.resolve) :=
        NameSet.ext fun id => by
          rw [NameSet.mem_ofList, NameSet.mem_ofList, List.mem_filterMap, List.mem_filterMap]
          exact exists_granted_alike hfilters id
      simp only [ofFilters, hsame]

end Alike

section Raw

variable {p : Json.Place} {raws : List Json} {permissions : List Permission}

theorem matching_eq_nil_iff (h : Json.readAll (Permission.ofJson? p) raws = some permissions)
    (required : String) : matching permissions required = [] ↔ matchingEntries p required raws = [] := by
  rw [← List.map_eq_nil_iff (f := Permission.filters), filters_matching h, List.map_eq_nil_iff]

theorem any_unfiltered_iff (h : Json.readAll (Permission.ofJson? p) raws = some permissions)
    (required : String) :
    ((matching permissions required).any fun q => q.filters.isEmpty) = true ↔
      ∃ raw ∈ matchingEntries p required raws, Permission.Undefined raw := by
  have hany : ((matching permissions required).any fun q => q.filters.isEmpty) =
      ((matching permissions required).map Permission.filters).any List.isEmpty := by
    rw [List.any_map]; rfl
  rw [hany, filters_matching h, List.any_map, List.any_eq_true]
  simp only [Function.comp_apply, List.isEmpty_iff, Permission.rawFilters_eq_nil_iff]

theorem flatMap_filters (h : Json.readAll (Permission.ofJson? p) raws = some permissions)
    (required : String) :
    (matching permissions required).flatMap Permission.filters =
      (matchingEntries p required raws).flatMap Permission.rawFilters := by
  rw [List.flatMap_def, filters_matching h, List.flatMap_def]

theorem resolve_of_no_entry (h : Json.readAll (Permission.ofJson? p) raws = some permissions)
    {required : String} (hentries : matchingEntries p required raws = []) (catalog : Catalog) :
    resolve permissions required catalog =
      ⟨⟨.attribute, .restricted ∅, some .noMatchingPermission⟩, 0, []⟩ := by
  have hfound := (matching_eq_nil_iff h required).2 hentries
  simp only [resolve, hfound, List.isEmpty_nil, if_true]
  rfl

theorem not_isEmpty_matching (h : Json.readAll (Permission.ofJson? p) raws = some permissions)
    {required : String} (hentries : matchingEntries p required raws ≠ []) :
    ¬ (matching permissions required).isEmpty = true := by
  rw [List.isEmpty_iff, matching_eq_nil_iff h]
  exact hentries

theorem resolve_of_undefined (h : Json.readAll (Permission.ofJson? p) raws = some permissions)
    {required : String} (hraw : ∃ raw ∈ matchingEntries p required raws, Permission.Undefined raw)
    (catalog : Catalog) :
    resolve permissions required catalog = ⟨⟨.attribute, .unrestricted, none⟩, 0, []⟩ := by
  have hfound : ¬ (matching permissions required).isEmpty = true := by
    obtain ⟨raw, hmem, _⟩ := hraw
    exact not_isEmpty_matching h (List.ne_nil_of_mem hmem)
  have hopen := (any_unfiltered_iff h required).2 hraw
  simp only [resolve, hfound, hopen, if_true]
  rfl

theorem resolve_of_defined (h : Json.readAll (Permission.ofJson? p) raws = some permissions)
    {required : String} (hentries : matchingEntries p required raws ≠ [])
    (hraw : ∀ raw ∈ matchingEntries p required raws, ¬ Permission.Undefined raw)
    (catalog : Catalog) :
    resolve permissions required catalog =
      ofFilters ((matchingEntries p required raws).flatMap Permission.rawFilters) catalog := by
  have hfound := not_isEmpty_matching h hentries
  have hclosed : ¬ ((matching permissions required).any fun q => q.filters.isEmpty) = true := by
    rw [any_unfiltered_iff h]
    rintro ⟨raw, hmem, hundefined⟩
    exact hraw raw hmem hundefined
  simp only [resolve, hfound, hclosed, flatMap_filters h]
  rfl

theorem isUnrestricted_resolve_iff
    (h : Json.readAll (Permission.ofJson? p) raws = some permissions) (required : String)
    (catalog : Catalog) :
    (resolve permissions required catalog).decision.isUnrestricted = true ↔
      ∃ raw ∈ matchingEntries p required raws, Permission.Undefined raw := by
  constructor
  · intro hunrestricted
    by_cases hentries : matchingEntries p required raws = []
    · rw [resolve_of_no_entry h hentries] at hunrestricted
      cases hunrestricted
    · by_cases hraw : ∃ raw ∈ matchingEntries p required raws, Permission.Undefined raw
      · exact hraw
      · rw [resolve_of_defined h hentries fun raw hmem hu => hraw ⟨raw, hmem, hu⟩]
          at hunrestricted
        cases hunrestricted
  · intro hraw
    rw [resolve_of_undefined h hraw]
    rfl

end Raw

theorem filter_isRecognized_flatMap (entries : List Json) :
    (entries.flatMap Permission.rawFilters).filter AttributeFilter.isRecognized =
      entries.flatMap Permission.readableFilters := by
  rw [List.filter_flatMap]
  simp only [Permission.filter_isRecognized_rawFilters]

theorem malformed_ofFilters (entries : List Json) (catalog : Catalog) :
    (ofFilters (entries.flatMap Permission.rawFilters) catalog).malformed =
      (entries.flatMap Permission.unreadable).length := by
  simp only [ofFilters, List.filter_flatMap, List.length_flatMap,
    Permission.length_unrecognized_rawFilters]

theorem dropped_ofFilters (entries : List Json) (catalog : Catalog) :
    (ofFilters (entries.flatMap Permission.rawFilters) catalog).dropped =
      (serviceValues (entries.flatMap Permission.readableFilters)).filter
        fun v => (catalog.resolve v).isNone := by
  have hunknown : (fun v => !catalog.contains v) = fun v => (catalog.resolve v).isNone := by
    funext v
    rw [Catalog.contains, Option.not_isSome]
  simp only [ofFilters, grantedValues_eq, filter_isRecognized_flatMap, hunknown]

/-- The resolution of permissions read from raw entries, case by case. Only an entry of the required
name whose definitions are missing, null or an empty list opens everything; whatever else cannot be
read is counted and opens nothing. -/
theorem resolve_raw_exact {p : Json.Place} {raws : List Json} {permissions : List Permission}
    (h : Json.readAll (Permission.ofJson? p) raws = some permissions) (required : String)
    (catalog : Catalog) :
    let r := resolve permissions required catalog
    let entries := matchingEntries p required raws
    (entries = [] → r = ⟨⟨.attribute, .restricted ∅, some .noMatchingPermission⟩, 0, []⟩) ∧
    ((∃ raw ∈ entries, Permission.Undefined raw) → r = ⟨⟨.attribute, .unrestricted, none⟩, 0, []⟩) ∧
    (entries ≠ [] → (∀ raw ∈ entries, ¬ Permission.Undefined raw) →
      let values := serviceValues (entries.flatMap Permission.readableFilters)
      r.decision.RestrictsTo .attribute (fun id => ∃ v ∈ values, catalog.resolve v = some id)
          .emptyServiceScope ∧
        r.malformed = (entries.flatMap Permission.unreadable).length ∧
        r.dropped = values.filter fun v => (catalog.resolve v).isNone) ∧
    (r.decision.isUnrestricted = true ↔
      ∃ raw ∈ raws, Permission.rawName? p raw = some required ∧ Permission.Undefined raw) := by
  intro r entries
  refine ⟨fun hentries => resolve_of_no_entry h hentries catalog,
    fun hraw => resolve_of_undefined h hraw catalog, ?_, ?_⟩
  · intro hentries hraw values
    have hrestricts := ofFilters_restrictsTo (entries.flatMap Permission.rawFilters) catalog
    rw [filter_isRecognized_flatMap] at hrestricts
    rw [show r = ofFilters (entries.flatMap Permission.rawFilters) catalog from
      resolve_of_defined h hentries hraw catalog]
    exact ⟨hrestricts, malformed_ofFilters entries catalog, dropped_ofFilters entries catalog⟩
  · rw [isUnrestricted_resolve_iff h]
    constructor
    · rintro ⟨raw, hmem, hundefined⟩
      obtain ⟨hraws, hname⟩ := mem_matchingEntries.1 hmem
      exact ⟨raw, hraws, hname, hundefined⟩
    · rintro ⟨raw, hraws, hname, hundefined⟩
      exact ⟨raw, mem_matchingEntries.2 ⟨hraws, hname⟩, hundefined⟩

/-- A broken entry opens nothing, not even beside one that opens a service the catalog lists and one
it does not list. -/
theorem resolve_raw_exact_of_broken_entry :
    let filter : Json := .obj [("key", .str " Service "), ("operation", .str "IN"),
      ("value", .str "Config-Manager, patch")]
    let raws : List Json :=
      [.obj [("permission", .str "run:read"),
          ("resourceDefinitions", .arr [.obj [("attributeFilter", filter)], .null])],
        .arr [.str "run:read", .bool true], .obj [("permission", .str "run:write")]]
    let permissions : List Permission :=
      [⟨"run:read", [.oneOf " Service " (.ofList ["Config-Manager", "patch"]), .unrecognized]⟩,
        ⟨"run:read", [.unrecognized]⟩, ⟨"run:write", []⟩]
    let catalog := Catalog.ofIds ["tasks", "config_manager"]
    let r := resolve permissions "run:read" catalog
    Json.readAll (Permission.ofJson? .message) raws = some permissions ∧
      r.decision.RestrictsTo .attribute
        (fun id => ∃ v ∈ ["Config-Manager", "patch"], catalog.resolve v = some id)
        .emptyServiceScope ∧
      r.malformed = 2 ∧ r.dropped = ["patch"] := by
  intro filter raws permissions catalog r
  have hread : Json.readAll (Permission.ofJson? .message) raws = some permissions := by
    decide +kernel
  have hentries : matchingEntries .message "run:read" raws = raws.take 2 := by
    simp [matchingEntries, Permission.rawName?, Permission.rawField?, Json.find?, Json.readStr, raws]
  have hraw : ∀ raw ∈ raws.take 2, ¬ Permission.Undefined raw := by
    simp [raws, Permission.Undefined, Permission.rawDefinitions?, Permission.rawField?, Json.find?]
  have hvalues : serviceValues ((raws.take 2).flatMap Permission.readableFilters) =
      ["Config-Manager", "patch"] := by decide +kernel
  have h := (resolve_raw_exact hread "run:read" catalog).2.2.1
  rw [hentries, hvalues] at h
  obtain ⟨hrestricts, hmalformed, hdropped⟩ := h (by simp [raws]) hraw
  refine ⟨hread, hrestricts, hmalformed.trans ?_, hdropped.trans ?_⟩
  · decide +kernel
  · decide +kernel

end AttributeResolution

end ScopedAccess
