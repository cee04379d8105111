import Mathlib.Data.List.Forall2
import ScopedAccess.Permission.Codec
import ScopedAccess.Proofs.Json
import ScopedAccess.Proofs.Text

/-!
# ScopedAccess.Proofs.FilterGrammar

Which values are read as filters, and as which.

* `Spelled` is the grammar: an equality with its one value, or a choice with its items.
* `equalTo_eq_iff` and `among_eq_iff`: the value of either operation is read by the grammar.
* `grammar_exact`: every value is read as the filter it spells, or as unrecognized if it spells
  none, and both shapes of a value spell the same.
-/

namespace ScopedAccess.AttributeFilter

open Json Text

/-! ## The grammar -/

/-- A value is a text, as a string or as a character. -/
inductive IsText : Json → String → Prop where
  | str (s : String) : IsText (.str s) s
  | letter (c : Char) : IsText (.letter c) (String.singleton c)

/-- The value of an equality: a string, or a list of one. -/
inductive Sole : Json → String → Prop where
  | str (s : String) : Sole (.str s) s
  | list (s : String) : Sole (.arr [.str s]) s

/-- The items of a choice: those of a list of strings, each taken whole, or the pieces that a string
is joined of by commas. -/
inductive Items : Json → List String → Prop where
  | list {vs : List Json} {items : List String} (texts : List.Forall₂ IsText vs items) :
      Items (.arr vs) items
  | joined {text : String} {items : List String} (nonempty : items ≠ [])
      (noComma : ∀ x ∈ items, ',' ∉ x.toList) (joins : ",".intercalate items = text) :
      Items (.str text) items

/-- The filter that a value spells. Items that are blank do not count, nor do the blanks around the
others. -/
inductive Spelled : Json → AttributeFilter → Prop where
  | equal {ms : List (String × Json)} {key operation text : String} {v : Json}
      (key_eq : find? "key" ms = some (.str key))
      (operation_eq : find? "operation" ms = some (.str operation))
      (is_equal : lower operation = "equal") (value_eq : find? "value" ms = some v)
      (sole : Sole v text) (present : trim text ≠ "") : Spelled (.obj ms) (.equal key (trim text))
  | oneOf {ms : List (String × Json)} {key operation : String} {v : Json} {items : List String}
      {values : NameSet} (key_eq : find? "key" ms = some (.str key))
      (operation_eq : find? "operation" ms = some (.str operation))
      (is_in : lower operation = "in") (value_eq : find? "value" ms = some v)
      (items_eq : Items v items) (present : ∃ x ∈ items, trim x ≠ "")
      (values_eq : ∀ z, z ∈ values ↔ z ≠ "" ∧ ∃ x ∈ items, trim x = z) :
      Spelled (.obj ms) (.oneOf key values)

/-! ## Values -/

theorem isBlankText_iff {s : String} : isBlankText s = true ↔ trim s = "" := by
  rw [isBlankText, String.isEmpty_iff]

theorem readStr_eq_some {v : Json} {s : String} : readStr .message v = some s ↔ IsText v s := by
  constructor
  · intro h
    cases v with
    | str _ => cases h; exact .str _
    | letter _ => cases h; exact .letter _
    | _ => cases h
  · rintro (_ | _) <;> rfl

theorem readAll_readStr {vs : List Json} {items : List String} :
    readAll (readStr .message) vs = some items ↔ List.Forall₂ IsText vs items := by
  rw [readAll_eq_some, ← List.forall₂_eq_eq_eq, List.forall₂_map_left_iff,
    List.forall₂_map_right_iff]
  simp only [readStr_eq_some]

/-- The items of a choice that are not blank, without the blanks around them. -/
def trimmed (items : List String) : List String :=
  (items.map trim).filter fun v => !v.isEmpty

theorem mem_trimmed {items : List String} {z : String} :
    z ∈ trimmed items ↔ z ≠ "" ∧ ∃ x ∈ items, trim x = z := by
  rw [trimmed, List.mem_filter, List.mem_map, and_comm, Bool.not_eq_true', ← Bool.not_eq_true,
    String.isEmpty_iff]

theorem ofTrimmed_eq (key : String) (items : List String) :
    ofTrimmed key items =
      if (trimmed items).isEmpty then .unrecognized else .oneOf key (.ofList (trimmed items)) := rfl

/-- Items make a filter if and only if one of them is not blank. -/
theorem ofTrimmed_eq_iff {key : String} {items : List String} {f : AttributeFilter}
    (hf : f ≠ .unrecognized) :
    ofTrimmed key items = f ↔
      (∃ x ∈ items, trim x ≠ "") ∧
        ∃ values : NameSet, (∀ z, z ∈ values ↔ z ≠ "" ∧ ∃ x ∈ items, trim x = z) ∧
          f = .oneOf key values := by
  have hpresent : (∃ x ∈ items, trim x ≠ "") ↔ trimmed items ≠ [] := by
    constructor
    · rintro ⟨x, hx, hne⟩
      exact List.ne_nil_of_mem (mem_trimmed.2 ⟨hne, x, hx, rfl⟩)
    · intro hne
      obtain ⟨z, hz⟩ := List.exists_mem_of_ne_nil _ hne
      obtain ⟨hne, x, hx, rfl⟩ := mem_trimmed.1 hz
      exact ⟨x, hx, hne⟩
  rw [ofTrimmed_eq, hpresent, ne_eq, ← List.isEmpty_iff]
  constructor
  · intro h
    split at h
    · exact absurd h.symm hf
    · rename_i hne
      exact ⟨hne, _, fun z => NameSet.mem_ofList.trans mem_trimmed, h.symm⟩
  · rintro ⟨hne, values, hvalues, rfl⟩
    rw [if_neg hne]
    exact congrArg _ (NameSet.ext fun z => (NameSet.mem_ofList.trans mem_trimmed).trans
      (hvalues z).symm)

/-- The value of an equality is read by the grammar. -/
theorem equalTo_eq_iff {key : String} {v : Option Json} {f : AttributeFilter}
    (hf : f ≠ .unrecognized) :
    equalTo key v = f ↔
      ∃ w text, v = some w ∧ Sole w text ∧ trim text ≠ "" ∧ f = .equal key (trim text) := by
  have hvalue : ∀ s, ofValue key s = f ↔ trim s ≠ "" ∧ f = .equal key (trim s) := by
    intro s
    rw [ofValue]
    by_cases hs : trim s = ""
    · simp [isBlankText_iff.2 hs, hs, Ne.symm hf]
    · simp [mt isBlankText_iff.1 hs, hs, eq_comm]
  constructor
  · intro h
    unfold equalTo at h
    split at h
    · exact ⟨_, _, rfl, .str _, (hvalue _).1 h⟩
    · exact ⟨_, _, rfl, .list _, (hvalue _).1 h⟩
    · exact absurd h.symm hf
  · rintro ⟨w, text, rfl, hsole, h⟩
    cases hsole with
    | str => exact (hvalue text).2 h
    | list => exact (hvalue text).2 h

/-- The value of a choice is read by the grammar. -/
theorem among_eq_iff {key : String} {v : Option Json} {f : AttributeFilter}
    (hf : f ≠ .unrecognized) :
    among key v = f ↔
      ∃ w items, v = some w ∧ Items w items ∧ (∃ x ∈ items, trim x ≠ "") ∧
        ∃ values : NameSet, (∀ z, z ∈ values ↔ z ≠ "" ∧ ∃ x ∈ items, trim x = z) ∧
          f = .oneOf key values := by
  constructor
  · intro h
    unfold among at h
    split at h
    · rename_i joined
      obtain ⟨hne, hcomma, hjoin⟩ := fields_eq_iff.1 (Eq.refl (fields ',' joined))
      exact ⟨_, _, rfl, .joined hne hcomma hjoin, (ofTrimmed_eq_iff hf).1 h⟩
    · split at h
      · rename_i hread
        exact ⟨_, _, rfl, .list (readAll_readStr.1 hread), (ofTrimmed_eq_iff hf).1 h⟩
      · exact absurd h.symm hf
    · exact absurd h.symm hf
  · rintro ⟨w, items, rfl, hitems, h⟩
    cases hitems with
    | list texts =>
      rw [among, readAll_readStr.2 texts]
      exact (ofTrimmed_eq_iff hf).2 h
    | joined hne hcomma hjoin =>
      rw [among, fields_eq_iff.2 ⟨hne, hcomma, hjoin⟩]
      exact (ofTrimmed_eq_iff hf).2 h

/-! ## Filters -/

theorem ofJson_obj {ms : List (String × Json)} {key operation : String}
    (hkey : find? "key" ms = some (.str key))
    (hoperation : find? "operation" ms = some (.str operation)) :
    ofJson (.obj ms) =
      if lower operation = "equal" then equalTo key (find? "value" ms)
      else if lower operation = "in" then among key (find? "value" ms)
      else .unrecognized := by
  simp only [ofJson, member?, hkey, hoperation]

theorem ne_unrecognized_of_spelled {raw : Json} {f : AttributeFilter} (h : Spelled raw f) :
    f ≠ .unrecognized := by
  cases h <;> simp

theorem ofJson_of_spelled {raw : Json} {f : AttributeFilter} (h : Spelled raw f) :
    ofJson raw = f := by
  have hf := ne_unrecognized_of_spelled h
  cases h with
  | equal hkey hoperation hequal hvalue hsole hpresent =>
    rw [ofJson_obj hkey hoperation, if_pos hequal]
    exact (equalTo_eq_iff hf).2 ⟨_, _, hvalue, hsole, hpresent, rfl⟩
  | oneOf hkey hoperation hin hvalue hitems hpresent hvalues =>
    rw [ofJson_obj hkey hoperation, hin, if_neg (by decide), if_pos rfl]
    exact (among_eq_iff hf).2 ⟨_, _, hvalue, hitems, hpresent, _, hvalues, rfl⟩

theorem spelled_of_ofJson {raw : Json} {f : AttributeFilter} (h : ofJson raw = f)
    (hf : f ≠ .unrecognized) : Spelled raw f := by
  cases raw with
  | obj ms =>
    unfold ofJson at h
    split at h
    · rename_i hkey hoperation
      simp only [member?] at hkey hoperation h
      split at h
      · rename_i hequal
        obtain ⟨v, text, hvalue, hsole, hpresent, rfl⟩ := (equalTo_eq_iff hf).1 h
        exact .equal hkey hoperation hequal hvalue hsole hpresent
      · split at h
        · rename_i hin
          obtain ⟨v, items, hvalue, hitems, hpresent, values, hvalues, rfl⟩ :=
            (among_eq_iff hf).1 h
          exact .oneOf hkey hoperation hin hvalue hitems hpresent hvalues
        · exact absurd h.symm hf
    · exact absurd h.symm hf
  | _ => exact absurd h.symm hf

/-! ## Shapes -/

/-- Two objects name the same attribute and the same operation. -/
def SameOperation (ms ms' : List (String × Json)) : Prop :=
  find? "key" ms = find? "key" ms' ∧ find? "operation" ms = find? "operation" ms'

theorem ofJson_congr {ms ms' : List (String × Json)} {operation : String}
    (hsame : SameOperation ms ms')
    (hoperation : find? "operation" ms = some (.str operation))
    (hequal : lower operation = "equal" →
      ∀ key, equalTo key (find? "value" ms) = equalTo key (find? "value" ms'))
    (hin : lower operation = "in" →
      ∀ key, among key (find? "value" ms) = among key (find? "value" ms')) :
    ofJson (.obj ms) = ofJson (.obj ms') := by
  simp only [ofJson, member?, ← hsame.1, ← hsame.2, hoperation]
  split
  · split
    · rename_i key operation' _ hop he
      cases hop
      exact hequal he key
    · split
      · rename_i key operation' _ hop _ hi
        cases hop
        exact hin hi key
      · rfl
  · rfl

theorem among_strings (key : String) (items : List String) :
    among key (some (.strings items)) = ofTrimmed key items := by
  have hread : readAll (readStr .message) (items.map .str) = some items := by
    rw [readAll_eq_some, List.map_map]
    rfl
  rw [among.eq_def]
  simp only [strings, hread]

theorem among_joined (key : String) {items : List String} (h : ∀ x ∈ items, ',' ∉ x.toList) :
    among key (some (.str (",".intercalate items))) = ofTrimmed key items := by
  rw [among]
  by_cases hne : items = []
  · -- no item joins to the empty text, which is one blank field
    subst hne
    have hblank : trimmed (fields ',' (",".intercalate [])) = trimmed [] := by decide +kernel
    rw [ofTrimmed_eq, hblank, ofTrimmed_eq]
  · have hfields : fields ',' (",".intercalate items) = items := fields_eq_iff.2 ⟨hne, h, rfl⟩
    rw [hfields]

/-- Every value is read as the filter it spells, and as unrecognized if it spells none. A string and
a list of it spell one equality; a list and the same items joined by commas spell one choice. -/
theorem grammar_exact (raw : Json) :
    (∀ f, Spelled raw f ↔ ofJson raw = f ∧ f ≠ .unrecognized) ∧
    (ofJson raw = .unrecognized ↔ ∀ f, ¬ Spelled raw f) ∧
    ∀ ms ms' operation, SameOperation ms ms' → find? "operation" ms = some (.str operation) →
      (∀ text, lower operation = "equal" → find? "value" ms = some (.str text) →
        find? "value" ms' = some (.arr [.str text]) → ofJson (.obj ms) = ofJson (.obj ms')) ∧
      ∀ items, lower operation = "in" → (∀ x ∈ items, ',' ∉ x.toList) →
        find? "value" ms = some (.strings items) →
        find? "value" ms' = some (.str (",".intercalate items)) →
        ofJson (.obj ms) = ofJson (.obj ms') := by
  have hspelled : ∀ f, Spelled raw f ↔ ofJson raw = f ∧ f ≠ .unrecognized :=
    fun f => ⟨fun h => ⟨ofJson_of_spelled h, ne_unrecognized_of_spelled h⟩,
      fun h => spelled_of_ofJson h.1 h.2⟩
  refine ⟨hspelled, ⟨fun h f hf => ?_, fun h => ?_⟩, ?_⟩
  · obtain ⟨hread, hne⟩ := (hspelled f).1 hf
    exact hne (hread.symm.trans h)
  · by_contra hne
    exact h _ ((hspelled _).2 ⟨rfl, hne⟩)
  · intro ms ms' operation hsame hoperation
    refine ⟨fun text hequal hvalue hvalue' => ?_, fun items hin hcomma hvalue hvalue' => ?_⟩
    · refine ofJson_congr hsame hoperation (fun _ key => ?_) fun hin => ?_
      · rw [hvalue, hvalue', equalTo, equalTo]
      · rw [hequal] at hin
        exact absurd hin (by decide)
    · refine ofJson_congr hsame hoperation (fun hequal => ?_) fun _ key => ?_
      · rw [hin] at hequal
        exact absurd hequal (by decide)
      · rw [hvalue, hvalue', among_strings, among_joined key hcomma]

/-- A list with a blank item and one that ends in a non-breaking space, and the same items in one
string. -/
theorem grammar_exact_of_blank_item :
    let head : List (String × Json) := [("key", .str " Service "), ("operation", .str "IN")]
    let listed := head ++ [("value", .strings ["Config-Manager\u00a0", " ", "patch"])]
    let joined := head ++ [("value", .str "Config-Manager\u00a0, ,patch")]
    let f : AttributeFilter := .oneOf " Service " (.ofList ["patch", "Config-Manager"])
    lower "IN" = "in" ∧ (∀ x ∈ ["Config-Manager\u00a0", " ", "patch"], ',' ∉ x.toList) ∧
      Spelled (.obj listed) f ∧ ofJson (.obj listed) = ofJson (.obj joined) := by
  intro head listed joined f
  have hin : lower "IN" = "in" := by decide +kernel
  have hcomma : ∀ x ∈ ["Config-Manager\u00a0", " ", "patch"], ',' ∉ x.toList := by decide
  obtain ⟨hspelled, -, hshapes⟩ := grammar_exact (.obj listed)
  refine ⟨hin, hcomma, (hspelled f).2 ⟨by decide +kernel, by simp [f]⟩, ?_⟩
  exact (hshapes listed joined "IN" ⟨rfl, rfl⟩ rfl).2 _ hin hcomma rfl rfl

end ScopedAccess.AttributeFilter
