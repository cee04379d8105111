import ScopedAccess.Text.Blank
import ScopedAccess.Text.Decimal
import ScopedAccess.Text.Pieces

/-!
# ScopedAccess.Proofs.Text

Laws of cutting texts and filling templates.

* `takeWhile_append_of_stops` and `dropWhile_append_of_stops`: a run of characters ends where what
  follows it begins.
* `fields_eq_iff`: the fields of a text are the only pieces without separator that it is joined of.
* `fillChars_eq_intercalate`: filling puts the value between the segments of a template.
* `fill_injective`: a template with a hole tells apart what it is filled with.
-/

namespace ScopedAccess.Text

/-! ## Runs of characters -/

theorem takeWhile_append_of_stops {p : Char → Bool} {xs ys : List Char}
    (hxs : ∀ c ∈ xs, p c = true) (hys : ∀ c, ys.head? = some c → p c = false) :
    (xs ++ ys).takeWhile p = xs := by
  rw [List.takeWhile_append_of_pos hxs]
  cases ys with
  | nil => simp
  | cons c ys => simp [hys c rfl]

theorem dropWhile_append_of_stops {p : Char → Bool} {xs ys : List Char}
    (hxs : ∀ c ∈ xs, p c = true) (hys : ∀ c, ys.head? = some c → p c = false) :
    (xs ++ ys).dropWhile p = ys := by
  rw [List.dropWhile_append_of_pos hxs, dropWhile_eq_self_of_head hys]

theorem Decimal.mem_digits {n : Nat} {c : Char} (h : c ∈ digits n) : isDigit c = true :=
  List.all_eq_true.1 (all_isDigit_digits n) c h

theorem Decimal.exists_cons_digits (n : Nat) :
    ∃ c cs, digits n = c :: cs ∧ isDigit c = true := by
  obtain ⟨c, cs, hcs⟩ := List.exists_cons_of_ne_nil (digits_ne_nil n)
  exact ⟨c, cs, hcs, mem_digits (hcs ▸ List.mem_cons_self)⟩

/-! ## Fields -/

theorem fieldChars_eq_splitOn (sep : Char) (cs : List Char) :
    fieldChars sep cs = cs.splitOn sep := by
  induction cs with
  | nil => rfl
  | cons c cs ih =>
    rw [fieldChars, ih, List.splitOn_cons_eq_if_modifyHead]
    cases hfields : cs.splitOn sep with
    | nil => exact absurd hfields (List.splitOn_ne_nil sep cs)
    | cons field rest => by_cases hc : c = sep <;> simp [hc]

theorem not_mem_of_mem_fieldChars {sep : Char} {cs field : List Char}
    (h : field ∈ fieldChars sep cs) : sep ∉ field := by
  induction cs generalizing field with
  | nil =>
    rw [List.mem_singleton.1 h]
    exact List.not_mem_nil
  | cons c cs ih =>
    rw [fieldChars] at h
    split at h
    · rw [List.mem_singleton.1 h]
      exact List.not_mem_nil
    · rename_i first rest hfields
      rw [hfields] at ih
      split at h
      · rcases List.mem_cons.1 h with rfl | h
        · exact List.not_mem_nil
        · exact ih h
      · rename_i hc
        rcases List.mem_cons.1 h with rfl | h
        · rw [List.mem_cons, not_or]
          exact ⟨Ne.symm hc, ih List.mem_cons_self⟩
        · exact ih (List.mem_cons_of_mem _ h)

/-- The fields of a text are the pieces without separator that give the text when they are joined
by separators. -/
theorem fields_eq_iff {sep : Char} {text : String} {pieces : List String} :
    fields sep text = pieces ↔
      pieces ≠ [] ∧ (∀ x ∈ pieces, sep ∉ x.toList) ∧
        String.intercalate (String.singleton sep) pieces = text := by
  constructor
  · rintro rfl
    refine ⟨?_, ?_, ?_⟩
    · simp [fields, fieldChars_ne_nil]
    · intro x hx
      obtain ⟨field, hfield, rfl⟩ := List.mem_map.1 hx
      rw [String.toList_ofList]
      exact not_mem_of_mem_fieldChars hfield
    · rw [← String.toList_inj, String.toList_intercalate, fields, List.map_map,
        fieldChars_eq_splitOn]
      simp [Function.comp_def]
  · rintro ⟨hne, hsep, rfl⟩
    have hsplit : (String.intercalate (String.singleton sep) pieces).toList.splitOn sep =
        pieces.map String.toList := by
      rw [String.toList_intercalate, String.toList_singleton]
      refine List.splitOn_intercalate sep ?_ (by simpa using hne)
      intro cs hcs
      obtain ⟨x, hx, rfl⟩ := List.mem_map.1 hcs
      exact hsep x hx
    rw [fields, fieldChars_eq_splitOn, hsplit, List.map_map]
    simp [Function.comp_def]

/-! ## Templates -/

/-- What a template says before, between and after its holes. -/
def segments (hole : List Char) : List Char → List (List Char)
  | [] => [[]]
  | c :: cs =>
    if hole.isPrefixOf (c :: cs) then [] :: segments hole (cs.drop (hole.length - 1))
    else (segments hole cs).modifyHead (c :: ·)
termination_by text => text.length

theorem segments_ne_nil (hole text : List Char) : segments hole text ≠ [] := by
  fun_induction segments hole text with
  | case1 => simp
  | case2 => simp
  | case3 c cs _ ih => simpa using ih

theorem intercalate_modifyHead_cons (value : List Char) (c : Char) {pieces : List (List Char)}
    (h : pieces ≠ []) :
    value.intercalate (pieces.modifyHead (c :: ·)) = c :: value.intercalate pieces := by
  match pieces, h with
  | [piece], _ => simp
  | piece :: next :: rest, _ => simp

theorem fillChars_eq_intercalate (hole value text : List Char) :
    fillChars hole value text = value.intercalate (segments hole text) := by
  fun_induction segments hole text with
  | case1 => simp [fillChars]
  | case2 c cs hprefix ih =>
    rw [fillChars, if_pos hprefix, ih, List.intercalate_cons_of_ne_nil (segments_ne_nil _ _),
      List.nil_append]
  | case3 c cs hprefix ih =>
    rw [fillChars, if_neg hprefix, ih, intercalate_modifyHead_cons value c (segments_ne_nil _ _)]

/-- A template with a hole has something on both sides of it. -/
theorem two_le_length_segments {hole text : List Char} (hne : hole ≠ []) (h : hole <:+: text) :
    2 ≤ (segments hole text).length := by
  fun_induction segments hole text with
  | case1 => exact absurd (List.infix_nil.1 h) hne
  | case2 c cs _ ih =>
    have := List.length_pos_iff.2 (segments_ne_nil hole (cs.drop (hole.length - 1)))
    rw [List.length_cons]
    omega
  | case3 c cs hprefix ih =>
    rw [List.length_modifyHead]
    rcases List.infix_cons_iff.1 h with h | h
    · exact absurd (List.isPrefixOf_iff_prefix.2 h) hprefix
    · exact ih h

theorem length_intercalate (value : List Char) (pieces : List (List Char)) :
    (value.intercalate pieces).length =
      pieces.flatten.length + (pieces.length - 1) * value.length := by
  induction pieces with
  | nil => simp
  | cons piece pieces ih =>
    cases pieces with
    | nil => simp
    | cons next rest =>
      rw [List.intercalate_cons_cons, List.length_append, List.length_append, ih]
      simp only [List.flatten_cons, List.length_append, List.length_cons, Nat.add_sub_cancel,
        Nat.succ_mul]
      omega

/-- Two values that give the same text between the same pieces are as long as each other, so they
stand at the same places and are equal. -/
theorem intercalate_injective {pieces : List (List Char)} (h : 2 ≤ pieces.length)
    {value value' : List Char} (hsame : value.intercalate pieces = value'.intercalate pieces) :
    value = value' := by
  have hlength : value.length = value'.length := by
    have heq := congrArg List.length hsame
    rw [length_intercalate, length_intercalate] at heq
    exact Nat.eq_of_mul_eq_mul_left (by omega) (Nat.add_left_cancel heq)
  match pieces, h with
  | first :: next :: rest, _ =>
    rw [List.intercalate_cons_cons, List.intercalate_cons_cons, List.append_assoc,
      List.append_assoc] at hsame
    exact (List.append_inj (List.append_cancel_left hsame) hlength).1

theorem containsChars_iff {part text : List Char} :
    containsChars part text = true ↔ part <:+: text := by
  induction text with
  | nil => simp [containsChars]
  | cons c cs ih =>
    rw [containsChars, Bool.or_eq_true, ih, List.isPrefixOf_iff_prefix, List.infix_cons_iff]

theorem contains_iff {part text : String} :
    contains part text = true ↔ part.toList <:+: text.toList := containsChars_iff

/-- A template with a hole tells apart the values it is filled with. -/
theorem fill_injective {hole template : String} (hne : hole ≠ "")
    (h : hole.toList <:+: template.toList) {value value' : String}
    (hsame : fill hole value template = fill hole value' template) : value = value' := by
  rw [← String.toList_inj, toList_fill, toList_fill, fillChars_eq_intercalate,
    fillChars_eq_intercalate] at hsame
  refine String.toList_inj.1 (intercalate_injective ?_ hsame)
  exact two_le_length_segments (mt String.toList_eq_nil_iff.1 hne) h

end ScopedAccess.Text
