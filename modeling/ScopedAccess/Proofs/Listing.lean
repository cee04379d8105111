import Mathlib.Data.List.Induction
import ScopedAccess.Proofs.Catalog
import ScopedAccess.Proofs.ConfigRoundTrip

/-!
# ScopedAccess.Proofs.Listing

Which of the names it is given a catalog lists, and which names it knows after that.

* `serviceKey_serviceKey`: a key is its own key.
* `firstNames`: the first names of all services that are not blank, in order. `firstNames_snoc` and
  `distinctServices_snoc` are one step of the loop that collects them.
* `ids_ofIds`: the first names are what a catalog lists, trimmed.
* `Catalog.first_spelling_listed`: so the keys of a catalog are distinct, it knows the services it
  was given and no others, and its entries give it back.
-/

namespace ScopedAccess

/-! ## Keys -/

theorem toNat_keyChar_of_capital : ∀ n, n < 91 → 65 ≤ n →
    (keyChar (Char.ofNat n)).toNat = n + 32 := by
  decide

/-- A capital becomes its small letter, a dash an underscore, and other characters stay. -/
theorem keyChar_cases (c : Char) :
    (65 ≤ c.toNat ∧ c.toNat < 91 ∧ (keyChar c).toNat = c.toNat + 32) ∨
      (c = '-' ∧ keyChar c = '_') ∨ keyChar c = c := by
  by_cases hcapital : 65 ≤ c.toNat ∧ c.toNat < 91
  · have h := toNat_keyChar_of_capital c.toNat hcapital.2 hcapital.1
    rw [Char.ofNat_toNat] at h
    exact .inl ⟨hcapital.1, hcapital.2, h⟩
  · by_cases hdash : c = '-'
    · exact .inr (.inl ⟨hdash, if_pos hdash⟩)
    · have hlower : c.toLower = c :=
        dif_neg fun h => hcapital ⟨h.1, Nat.lt_succ_of_le h.2⟩
      exact .inr (.inr ((if_neg hdash).trans hlower))

theorem isBlank_keyChar (c : Char) : Text.isBlank (keyChar c) = Text.isBlank c := by
  rcases keyChar_cases c with ⟨hlow, hhigh, h⟩ | ⟨rfl, h⟩ | h
  · -- neither a capital nor its small letter is blank
    simp only [Text.isBlank, h]
    grind
  · rw [h]
    decide
  · rw [h]

theorem keyChar_keyChar (c : Char) : keyChar (keyChar c) = keyChar c := by
  rcases keyChar_cases c with ⟨hlow, hhigh, h⟩ | ⟨rfl, h⟩ | h
  · rcases keyChar_cases (keyChar c) with ⟨-, hhigh', -⟩ | ⟨hdash, -⟩ | h'
    · omega
    · have hcode : '-'.toNat = 45 := rfl
      rw [hdash] at h
      omega
    · exact h'
  · rw [h]
    decide
  · rw [h, h]

theorem Text.trimChars_map {f : Char → Char} (h : ∀ c, isBlank (f c) = isBlank c)
    (cs : List Char) : trimChars (cs.map f) = (trimChars cs).map f := by
  have hf : isBlank ∘ f = isBlank := funext h
  simp only [trimChars, dropTrailingBlanks, List.dropWhile_map, ← List.map_reverse, hf]

/-- A key is its own key. -/
theorem serviceKey_serviceKey (name : String) : serviceKey (serviceKey name) = serviceKey name := by
  have hchars : keyChar ∘ keyChar = keyChar := funext keyChar_keyChar
  simp only [serviceKey, String.toList_ofList, Text.trimChars_map isBlank_keyChar,
    Text.trimChars_trimChars, List.map_map, hchars]

/-! ## First names -/

/-- A name at a place of a list is the first of its service, and not blank. -/
def IsFirst (names : List String) (m : String × Nat) : Prop :=
  serviceKey m.1 ≠ "" ∧ serviceKey m.1 ∉ (names.take m.2).map serviceKey

instance (names : List String) : DecidablePred (IsFirst names) := fun _ =>
  inferInstanceAs (Decidable (_ ∧ _))

/-- The first names of all services, in order. -/
def firstNames (names : List String) : List String :=
  (names.zipIdx.filter fun m => IsFirst names m).map Prod.fst

variable {names : List String} {name : String}

theorem isFirst_snoc {m : String × Nat} (h : m ∈ names.zipIdx) :
    IsFirst (names ++ [name]) m ↔ IsFirst names m := by
  have hplace : m.2 < names.length := (List.mem_zipIdx' h).1
  rw [IsFirst, IsFirst, List.take_append_of_le_length (Nat.le_of_lt hplace)]

theorem isFirst_last : IsFirst (names ++ [name]) (name, names.length) ↔
    ¬ (serviceKey name = "" ∨ serviceKey name ∈ names.map serviceKey) := by
  rw [IsFirst, List.take_left, not_or]

theorem firstNames_snoc (names : List String) (name : String) :
    firstNames (names ++ [name]) = firstNames names ++
      if serviceKey name = "" ∨ serviceKey name ∈ names.map serviceKey then [] else [name] := by
  have hbefore : (names.zipIdx.filter fun m => IsFirst (names ++ [name]) m) =
      names.zipIdx.filter fun m => IsFirst names m :=
    List.filter_congr fun _ hm => decide_eq_decide.2 (isFirst_snoc hm)
  rw [firstNames, List.zipIdx_append, List.filter_append, List.map_append, hbefore]
  congr 1
  simp only [List.zipIdx_singleton, Nat.zero_add]
  split
  · next h =>
    rw [List.filter_cons_of_neg (by rwa [decide_eq_true_eq, isFirst_last, not_not])]
    rfl
  · next h =>
    rw [List.filter_cons_of_pos (by rwa [decide_eq_true_eq, isFirst_last])]
    rfl

/-- The services of the first names are all services that are not blank. -/
theorem mem_keys_firstNames {key : String} :
    key ∈ (firstNames names).map serviceKey ↔ key ≠ "" ∧ key ∈ names.map serviceKey := by
  induction names using List.reverseRecOn with
  | nil => simp [firstNames]
  | append_singleton names name ih =>
    rw [firstNames_snoc, List.map_append, List.map_append, List.mem_append, List.mem_append, ih]
    split
    · next h =>
      rw [List.map_nil, List.map_singleton, List.mem_singleton]
      grind
    · next h =>
      rw [List.map_singleton, List.mem_singleton]
      grind

/-- One more name is kept if its service is not blank and was not named before. -/
theorem distinctServices_snoc (name : String) (names : List String) : ∀ seen,
    distinctServices seen (names ++ [name]) = distinctServices seen names ++
      if serviceKey name = "" ∨ serviceKey name ∈ seen ∨ serviceKey name ∈ names.map serviceKey then
        []
      else [Text.trim name] := by
  induction names with
  | nil =>
    intro seen
    simp only [List.nil_append, distinctServices, serviceKey_trim, List.map_nil, List.not_mem_nil,
      or_false]
  | cons first rest ih =>
    intro seen
    simp only [List.cons_append, distinctServices, serviceKey_trim]
    split
    · next hdropped =>
      -- a name of the service that was dropped is blank, or was seen before as well
      rw [ih]
      congr 2
      rw [List.map_cons, List.mem_cons, eq_iff_iff]
      grind
    · rw [ih, List.cons_append, List.map_cons]
      congr 3
      simp only [List.mem_cons, or_assoc, or_left_comm]

/-! ## Catalogs -/

namespace Catalog

/-- A catalog lists the first name of each service, trimmed. -/
theorem ids_ofIds (names : List String) : (ofIds names).ids = (firstNames names).map Text.trim := by
  change distinctServices [] names = _
  induction names using List.reverseRecOn with
  | nil => rfl
  | append_singleton names name ih =>
    rw [distinctServices_snoc, firstNames_snoc, List.map_append, ← ih]
    simp only [List.not_mem_nil, false_or]
    split <;> rfl

theorem entries_ofIds (names : List String) :
    (ofIds names).entries = (firstNames names).map fun name => (Text.trim name, serviceKey name) := by
  rw [entries, ids_ofIds, List.map_map]
  exact List.map_congr_left fun name _ => by rw [Function.comp_apply, serviceKey_trim]

variable {c : Catalog}

theorem resolve_eq_none {name : String} :
    c.resolve name = none ↔ serviceKey name ∉ c.ids.map serviceKey := by
  simp only [Option.eq_none_iff_forall_ne_some, ne_eq, resolve_eq_some, List.mem_map, not_exists]

theorem keys_entries (c : Catalog) : c.entries.map Prod.snd = c.ids.map serviceKey := by
  rw [entries, List.map_map]
  rfl

theorem keys_ofIds (names : List String) :
    (ofIds names).ids.map serviceKey = (firstNames names).map serviceKey := by
  rw [← keys_entries, entries_ofIds, List.map_map]
  rfl

/-- A catalog lists the first name of each service that is not blank, trimmed and in order, so that
all its entries have keys of their own. A name is known to it as the entry of its service, and is
unknown exactly if no name of the service was given. The entries give the catalog back. -/
theorem first_spelling_listed (names : List String) :
    (ofIds names).entries =
        (firstNames names).map (fun name => (Text.trim name, serviceKey name)) ∧
      ((ofIds names).entries.map Prod.snd).Nodup ∧
      (∀ e ∈ (ofIds names).entries, e.2 ≠ "" ∧ e.2 = serviceKey e.1) ∧
      (∀ name, serviceKey (serviceKey name) = serviceKey name) ∧
      (∀ name id, (ofIds names).resolve name = some id ↔
        id ∈ (ofIds names).ids ∧ serviceKey id = serviceKey name) ∧
      (∀ name, (ofIds names).resolve name = none ↔
        ¬ ∃ n ∈ names, serviceKey n ≠ "" ∧ serviceKey n = serviceKey name) ∧
      (∀ id ∈ (ofIds names).ids, (ofIds names).resolve id = some id) ∧
      ofIds (ofIds names).ids = ofIds names ∧
      ∀ p, Catalog.ofJson? p (ofIds names).toJson = some (ofIds names) := by
  refine ⟨entries_ofIds names, ?_, fun e he => ?_, serviceKey_serviceKey,
    fun name id => resolve_eq_some, fun name => ?_, fun id hid => resolve_eq_some.2 ⟨hid, rfl⟩,
    ofIds_ids _, fun p => ofJson?_toJson p _⟩
  · rw [keys_entries]
    exact (ofIds names).distinct.1
  · obtain ⟨id, hid, rfl⟩ := List.mem_map.1 he
    exact ⟨fun h => (ofIds names).distinct.2 (h ▸ List.mem_map_of_mem hid), rfl⟩
  · rw [resolve_eq_none, keys_ofIds, mem_keys_firstNames, not_iff_not, List.mem_map]
    constructor
    · rintro ⟨hblank, n, hn, hkey⟩
      exact ⟨n, hn, hkey ▸ hblank, hkey⟩
    · rintro ⟨n, hn, hblank, hkey⟩
      exact ⟨hkey ▸ hblank, n, hn, hkey⟩

/-- Two of five names are listed: the others are blank or spell a service again. -/
theorem first_spelling_listed_of_repeats :
    let c := ofIds [" tasks ", "", "config_manager", "config-manager", "Tasks"]
    c.entries = [("tasks", "tasks"), ("config_manager", "config_manager")] ∧
      "config_manager" ∈ c.ids ∧ c.resolve "config_manager" = some "config_manager" ∧
      c.resolve "CONFIG-manager" = some "config_manager" := by
  intro c
  obtain ⟨hentries, -, -, -, hresolve, -, hself, -, -⟩ :=
    first_spelling_listed [" tasks ", "", "config_manager", "config-manager", "Tasks"]
  have hmem : "config_manager" ∈ c.ids := by decide +kernel
  exact ⟨hentries.trans (by decide +kernel), hmem, hself _ hmem,
    (hresolve _ _).2 ⟨hmem, by decide +kernel⟩⟩

end Catalog

end ScopedAccess
