import ScopedAccess.Text.Blank

/-!
# ScopedAccess.Catalog

Services are known by many spellings: `config-manager`, `Config_Manager` and ` config_manager `
name one service. `serviceKey` is what the spellings of a service have in common, and a `Catalog`
lists the services that can be granted, one spelling each.

* `Catalog.ofIds` keeps the first spelling of each service, trimmed, in the order given.
* `Catalog.resolve` turns any spelling into the catalog's own; a name the catalog does not list has
  none.
-/

namespace ScopedAccess

/-- A character of a service key: ASCII letters in lower case, a dash as an underscore. -/
def keyChar (c : Char) : Char :=
  if c = '-' then '_' else c.toLower

/-- What all spellings of one service share. -/
def serviceKey (name : String) : String :=
  String.ofList ((Text.trimChars name.toList).map keyChar)

/-- Names without those whose key is empty or occurred before. `seen` holds the keys met so far. -/
def distinctServices (seen : List String) : List String → List String
  | [] => []
  | name :: rest =>
    let id := Text.trim name
    let key := serviceKey id
    if key = "" ∨ key ∈ seen then distinctServices seen rest
    else id :: distinctServices (key :: seen) rest

/-- The services that can be granted, each under one spelling. -/
structure Catalog where
  ids : List String
  /-- No two entries spell one service, and no entry is blank. -/
  distinct : (ids.map serviceKey).Nodup ∧ "" ∉ ids.map serviceKey
  trimmed : ∀ id ∈ ids, Text.trim id = id
deriving DecidableEq

theorem serviceKey_of_mem_distinctServices {names : List String} :
    ∀ {seen : List String} {id : String}, id ∈ distinctServices seen names →
      serviceKey id ≠ "" ∧ serviceKey id ∉ seen := by
  induction names with
  | nil => intro seen id h; simp [distinctServices] at h
  | cons name rest ih =>
    intro seen id h
    simp only [distinctServices] at h
    split at h
    · exact ih h
    · rename_i hk
      rcases List.mem_cons.1 h with rfl | h
      · exact ⟨fun e => hk (.inl e), fun e => hk (.inr e)⟩
      · exact ⟨(ih h).1, fun e => (ih h).2 (List.mem_cons_of_mem _ e)⟩

theorem nodup_distinctServices {names : List String} :
    ∀ {seen : List String}, ((distinctServices seen names).map serviceKey).Nodup := by
  induction names with
  | nil => intro seen; simp [distinctServices]
  | cons name rest ih =>
    intro seen
    simp only [distinctServices]
    split
    · exact ih
    · rw [List.map_cons, List.nodup_cons]
      refine ⟨fun h => ?_, ih⟩
      obtain ⟨id, hid, he⟩ := List.mem_map.1 h
      exact (serviceKey_of_mem_distinctServices hid).2 (by rw [he]; exact List.mem_cons_self)

theorem trim_of_mem_distinctServices {names : List String} :
    ∀ {seen : List String} {id : String}, id ∈ distinctServices seen names → Text.trim id = id := by
  induction names with
  | nil => intro seen id h; simp [distinctServices] at h
  | cons name rest ih =>
    intro seen id h
    simp only [distinctServices] at h
    split at h
    · exact ih h
    · rcases List.mem_cons.1 h with rfl | h
      · exact Text.trim_trim name
      · exact ih h

namespace Catalog

/-- The catalog of a list of names: the first spelling of each service counts. -/
def ofIds (names : List String) : Catalog where
  ids := distinctServices [] names
  distinct := ⟨nodup_distinctServices, fun h => by
    obtain ⟨id, hid, he⟩ := List.mem_map.1 h
    exact (serviceKey_of_mem_distinctServices hid).1 he⟩
  trimmed := fun _ => trim_of_mem_distinctServices

instance : Inhabited Catalog := ⟨ofIds []⟩

def size (c : Catalog) : Nat := c.ids.length

def isEmpty (c : Catalog) : Bool := c.ids.isEmpty

def entries (c : Catalog) : List (String × String) := c.ids.map fun id => (id, serviceKey id)

/-- The catalog's spelling of a service. -/
def resolve (c : Catalog) (name : String) : Option String :=
  c.ids.find? fun id => serviceKey id == serviceKey name

/-- Whether the catalog lists a service. -/
def contains (c : Catalog) (name : String) : Bool := (c.resolve name).isSome

end Catalog

end ScopedAccess
