import ScopedAccess.Json.Printer
import ScopedAccess.Json.Reader
import ScopedAccess.Proofs.Text

/-!
# ScopedAccess.Proofs.JsonText

JSON text is read as the value it was written from.

* `Textual` holds of the values that text can hold.
* `readString_escape`, `readNumeral_renderInt`, `readItems_renderItems` and
  `readMembers_renderMembers`: what is written of a character, an integer, a list and an object is
  read up to what follows it.
* `readsBack`: so is what is written of any value.
* `ofText?_compact`: the text of a value is read as the value. `compact_injective`: two values
  never have one text.
-/

namespace ScopedAccess.Json

open Text.Decimal

/-- Values that text can hold: integers have 64 bits, other numbers and lone characters are left
out, and no object names a member twice. -/
inductive Textual : Json → Prop where
  | null : Textual .null
  | bool (b : Bool) : Textual (.bool b)
  | int {n : Int} (word : isWord n = true) : Textual (.int n)
  | str (s : String) : Textual (.str s)
  | arr {items : List Json} (each : ∀ v ∈ items, Textual v) : Textual (.arr items)
  | obj {members : List (String × Json)} (names : (members.map Prod.fst).Nodup)
      (each : ∀ m ∈ members, Textual m.2) : Textual (.obj members)

/-- What may follow a value. -/
def Ends : List Char → Prop
  | [] => True
  | c :: _ => c = ',' ∨ c = ']' ∨ c = '\x7d'

/-! ## Strings -/

theorem hexValue?_hexDigit : ∀ d, d < 16 → hexValue? (hexDigit d) = some d := by
  decide

/-- What follows the backslash of an escape of four hexadecimal digits. -/
theorem readEscape_control {c : Char} (h : c.toNat < 0x20) (rest : List Char) :
    readEscape ('u' :: '0' :: '0' :: hexDigit (c.toNat / 16) :: hexDigit (c.toNat % 16) :: rest) =
      some (c, rest) := by
  have hhigh := hexValue?_hexDigit (c.toNat / 16) (by omega)
  have hlow := hexValue?_hexDigit (c.toNat % 16) (by omega)
  have hzero : hexValue? '0' = some 0 := by decide
  have hvalue : c.toNat / 16 * 16 + c.toNat % 16 = c.toNat := Nat.div_add_mod' c.toNat 16
  have hlead : ¬ 0xD800 ≤ c.toNat := by omega
  have htrail : ¬ 0xDC00 ≤ c.toNat := by omega
  simp [readEscape, hex4?, hzero, hhigh, hlow, hvalue, hlead, htrail, Char.ofNat_toNat]

/-- A character is escaped, so that the escape stands for it, or it stands for itself. -/
theorem escape_cases (c : Char) :
    (∃ escaped, escape c = '\\' :: escaped ∧
      ∀ tail, readEscape (escaped ++ tail) = some (c, tail)) ∨
    (escape c = [c] ∧ c ≠ '"' ∧ c ≠ '\\' ∧ ¬ c.toNat < 0x20) := by
  unfold escape
  split
  · next h => exact .inl ⟨_, rfl, fun _ => by rw [h]; rfl⟩
  split
  · next h => exact .inl ⟨_, rfl, fun _ => by rw [h]; rfl⟩
  split
  · next h => exact .inl ⟨_, rfl, fun _ => by rw [h]; rfl⟩
  split
  · next h => exact .inl ⟨_, rfl, fun _ => by rw [h]; rfl⟩
  split
  · next h => exact .inl ⟨_, rfl, fun _ => by rw [h]; rfl⟩
  split
  · next h => exact .inl ⟨_, rfl, fun _ => by rw [← Char.ofNat_toNat c, h]; rfl⟩
  split
  · next h => exact .inl ⟨_, rfl, fun _ => by rw [← Char.ofNat_toNat c, h]; rfl⟩
  split
  · next h => exact .inl ⟨_, rfl, fun tail => readEscape_control h tail⟩
  · next hquote hslash _ _ _ _ _ h => exact .inr ⟨rfl, hquote, hslash, h⟩

theorem readString_escape {fuel : Nat} {c : Char} {cs tail rest : List Char}
    (h : readString fuel tail = some (cs, rest)) :
    readString (fuel + 1) (escape c ++ tail) = some (c :: cs, rest) := by
  rcases escape_cases c with ⟨escaped, hescape, hread⟩ | ⟨hescape, hquote, hslash, hplain⟩
  · rw [hescape, List.cons_append]
    simp only [readString, hread, h]
  · rw [hescape, List.singleton_append, readString]
    · rw [if_neg hplain, h]
    · exact hquote
    · exact hslash

theorem readString_flatMap_escape (cs rest : List Char) :
    ∀ {fuel : Nat}, cs.length < fuel →
      readString fuel (cs.flatMap escape ++ '"' :: rest) = some (cs, rest) := by
  induction cs with
  | nil =>
    intro fuel h
    obtain ⟨fuel, rfl⟩ : ∃ n, fuel = n + 1 := ⟨fuel - 1, by omega⟩
    rfl
  | cons c cs ih =>
    intro fuel h
    obtain ⟨fuel, rfl⟩ : ∃ n, fuel = n + 1 := ⟨fuel - 1, by omega⟩
    rw [List.flatMap_cons, List.append_assoc]
    exact readString_escape (ih (Nat.lt_of_succ_lt_succ h))

theorem length_le_flatMap_escape (cs : List Char) : cs.length ≤ (cs.flatMap escape).length := by
  induction cs with
  | nil => exact Nat.le_refl 0
  | cons c cs ih =>
    have hpos : 0 < (escape c).length := by
      rcases escape_cases c with ⟨escaped, hescape, -⟩ | ⟨hescape, -⟩
      · rw [hescape]
        exact Nat.zero_lt_succ _
      · rw [hescape]
        exact Nat.zero_lt_one
    rw [List.flatMap_cons, List.length_append, List.length_cons]
    omega

theorem quoted_quote (s : String) (rest : List Char) :
    Dialect.message.quoted (s.toList.flatMap escape ++ '"' :: rest) = some (s.toList, rest) := by
  refine readString_flatMap_escape s.toList rest ?_
  have hle := length_le_flatMap_escape s.toList
  rw [List.length_append, List.length_cons]
  omega

/-! ## Numbers -/

theorem isDigit_of_ends {rest : List Char} (h : Ends rest) {c : Char} (hc : rest.head? = some c) :
    isDigit c = false := by
  cases rest with
  | nil => cases hc
  | cons d rest =>
    cases hc
    rcases h with rfl | rfl | rfl <;> decide

theorem readFraction_of_ends {rest : List Char} (h : Ends rest) :
    readFraction rest = some ([], rest) := by
  cases rest with
  | nil => rfl
  | cons c rest => rcases h with rfl | rfl | rfl <;> rfl

theorem readExponent_of_ends {rest : List Char} (h : Ends rest) :
    readExponent rest = some ([], rest) := by
  cases rest with
  | nil => rfl
  | cons c rest => rcases h with rfl | rfl | rfl <;> rfl

/-- Only zero is written with a zero in front. -/
theorem head?_digits {n : Nat} (h : n ≠ 0) : (digits n).head? ≠ some '0' := by
  have hdigit : ∀ d, d < 10 → d ≠ 0 → digitChar d ≠ '0' := by decide
  induction n using Nat.strongRecOn with
  | ind n ih =>
    rw [digits]
    split
    · rename_i hlt
      simpa using hdigit n hlt h
    · rename_i hge
      rw [List.head?_append, Option.or_of_isSome (by simp [digits_ne_nil])]
      exact ih (n / 10) (by omega) (by omega)

theorem length_digits_zero : (digits 0).length = 1 := by
  rw [digits]
  rfl

theorem no_needless_zero {n : Nat} (h : 1 < (digits n).length) : (digits n).head? ≠ some '0' := by
  refine head?_digits fun hn => ?_
  rw [hn, length_digits_zero] at h
  exact absurd h (Nat.lt_irrefl 1)

/-- How an integer is written. -/
def written (n : Int) : Numeral := ⟨decide (n < 0), digits n.natAbs, [], []⟩

theorem renderInt_eq (n : Int) :
    renderInt n = (if n < 0 then ['-'] else []) ++ digits n.natAbs := by
  cases n with
  | ofNat n =>
    have h : ¬ (Int.ofNat n < 0) := by simp
    rw [if_neg h]
    rfl
  | negSucc n =>
    rw [if_pos (Int.negSucc_lt_zero n)]
    rfl

theorem readNumeral_renderInt (n : Int) {rest : List Char} (h : Ends rest) :
    readNumeral (renderInt n ++ rest) = some (written n, rest) := by
  obtain ⟨c, cs, hcs, hc⟩ := exists_cons_digits n.natAbs
  have hminus : c ≠ '-' := fun e => by
    rw [e] at hc
    exact absurd hc (by decide)
  have hzero : 1 < (digits n.natAbs).length → _ := no_needless_zero
  have hdigits : ∀ x ∈ digits n.natAbs, isDigit x = true := fun _ => mem_digits
  have hwhole := Text.takeWhile_append_of_stops hdigits fun _ => isDigit_of_ends h
  have hafter := Text.dropWhile_append_of_stops hdigits fun _ => isDigit_of_ends h
  rw [hcs, List.cons_append] at hwhole hafter
  rw [hcs] at hzero
  rw [renderInt_eq, hcs, written, hcs]
  by_cases hneg : n < 0
  · simpa [readNumeral, hneg, hwhole, hafter, readFraction_of_ends h, readExponent_of_ends h]
      using hzero
  · simpa [readNumeral, hneg, hminus, hwhole, hafter, readFraction_of_ends h,
      readExponent_of_ends h] using hzero

theorem value_written {n : Int} (h : isWord n = true) : (written n).value = .int n := by
  have hmagnitude : (written n).magnitude = n.natAbs := valueFrom_digits n.natAbs
  have htoInt : (written n).toInt = n := by
    rw [Numeral.toInt, hmagnitude]
    simp only [written, decide_eq_true_eq]
    split <;> omega
  have hzero : (written n).isMinusZero = false := by
    rw [Numeral.isMinusZero, hmagnitude]
    simp only [written, Bool.and_eq_false_imp, decide_eq_true_eq, beq_eq_false_iff_ne]
    omega
  have hwhole : (written n).isWhole = true := rfl
  simp [Numeral.value, hwhole, hzero, htoInt, h]

/-! ## Values -/

/-- Reading gives the value back, whatever follows it. -/
def ReadsBack (v : Json) : Prop :=
  ∀ {fuel depth : Nat} {rest : List Char}, (render v).length < fuel → (render v).length ≤ depth →
    Ends rest → readValue .message fuel depth (render v ++ rest) = some (v, rest)

theorem skip_cons {c : Char} (h : isSpace c = false) (cs : List Char) :
    Dialect.message.skip (c :: cs) = c :: cs := by
  simp [Dialect.message, h]

theorem skip_of_ends {rest : List Char} (h : Ends rest) : Dialect.message.skip rest = rest := by
  cases rest with
  | nil => rfl
  | cons c rest =>
    refine skip_cons ?_ rest
    rcases h with rfl | rfl | rfl <;> decide

/-- An integer starts with a digit or with a minus sign. -/
theorem exists_cons_renderInt (n : Int) :
    ∃ c cs, renderInt n = c :: cs ∧ (c = '-' ∨ isDigit c = true) := by
  rw [renderInt_eq]
  split
  · exact ⟨_, _, rfl, .inl rfl⟩
  · obtain ⟨c, cs, hcs, hc⟩ := exists_cons_digits n.natAbs
    exact ⟨c, cs, hcs, .inr hc⟩

/-- No blank, bracket, quote or letter is a digit or a minus sign. -/
theorem ne_of_starts {c d : Char} (h : c = '-' ∨ isDigit c = true)
    (hd : (d == '-' || isDigit d) = false) : c ≠ d := by
  rintro rfl
  rcases h with rfl | h
  · exact absurd hd (by decide)
  · rw [h, Bool.or_true] at hd
    exact absurd hd (by decide)

theorem isSpace_of_starts {c : Char} (h : c = '-' ∨ isDigit c = true) : isSpace c = false := by
  have hspace : c ≠ ' ' := ne_of_starts h (by decide)
  have htab : c ≠ '\t' := ne_of_starts h (by decide)
  have hline : c ≠ '\n' := ne_of_starts h (by decide)
  have hreturn : c ≠ '\r' := ne_of_starts h (by decide)
  simp [isSpace, hspace, htab, hline, hreturn]

theorem readValue_of_starts {c : Char} (h : c = '-' ∨ isDigit c = true) (fuel depth : Nat)
    (cs : List Char) :
    readValue .message (fuel + 1) depth (c :: cs) =
      match readNumeral (c :: cs) with
      | none => none
      | some (n, rest) => some (n.value, rest) := by
  rw [readValue, skip_cons (isSpace_of_starts h)]
  split
  case h_7 => rfl
  all_goals
    rename_i heq
    exact absurd (List.cons.inj heq).1 (ne_of_starts h (by decide))

/-- A value starts with a character that is neither blank nor a closing bracket. -/
theorem exists_cons_render {v : Json} (h : Textual v) :
    ∃ c cs, render v = c :: cs ∧ isSpace c = false ∧ c ≠ ']' := by
  cases h with
  | @int n =>
    obtain ⟨c, cs, hcs, hc⟩ := exists_cons_renderInt n
    exact ⟨c, cs, hcs, isSpace_of_starts hc, ne_of_starts hc (by decide)⟩
  | bool b => cases b <;> exact ⟨_, _, rfl, by decide, by decide⟩
  | _ => exact ⟨_, _, rfl, by decide, by decide⟩

theorem readsBack_int {n : Int} (h : isWord n = true) : ReadsBack (.int n) := by
  intro fuel depth rest hfuel _ hrest
  obtain ⟨fuel, rfl⟩ : ∃ n, fuel = n + 1 := ⟨fuel - 1, by omega⟩
  obtain ⟨c, cs, hcs, hc⟩ := exists_cons_renderInt n
  have hread := readNumeral_renderInt n hrest
  rw [render]
  rw [hcs, List.cons_append] at hread ⊢
  rw [readValue_of_starts hc, hread]
  simp only [value_written h]

theorem readItems_renderItems {items : List Json} (hne : items ≠ [])
    (heach : ∀ v ∈ items, ReadsBack v) :
    ∀ (fuel depth : Nat) (rest : List Char), (renderItems items).length + 1 < fuel →
      (renderItems items).length ≤ depth →
      readItems .message fuel depth (renderItems items ++ ']' :: rest) = some (items, rest) := by
  induction items with
  | nil => exact absurd rfl hne
  | cons v vs ih =>
    intro fuel depth rest hfuel hdepth
    obtain ⟨fuel, rfl⟩ : ∃ n, fuel = n + 1 := ⟨fuel - 1, by omega⟩
    have hv : ReadsBack v := heach v List.mem_cons_self
    cases vs with
    | nil =>
      have hends : Ends (']' :: rest) := .inr (.inl rfl)
      have hsplit : renderItems [v] = render v := rfl
      rw [hsplit] at hfuel hdepth
      rw [hsplit, readItems, hv (by omega) hdepth hends]
      simp only [skip_of_ends hends]
    | cons w ws =>
      have hends : Ends (',' :: (renderItems (w :: ws) ++ ']' :: rest)) := .inl rfl
      have hsplit : renderItems (v :: w :: ws) = render v ++ ',' :: renderItems (w :: ws) := rfl
      rw [hsplit, List.length_append, List.length_cons] at hfuel hdepth
      rw [hsplit, List.append_assoc, List.cons_append, readItems, hv (by omega) (by omega) hends]
      simp only [skip_of_ends hends]
      rw [ih (List.cons_ne_nil _ _) (fun x hx => heach x (List.mem_cons_of_mem _ hx)) fuel depth
        rest (by omega) (by omega)]

theorem renderItems_cons (v : Json) (vs : List Json) :
    ∃ tail, renderItems (v :: vs) = render v ++ tail := by
  cases vs with
  | nil => exact ⟨[], (List.append_nil _).symm⟩
  | cons w ws => exact ⟨_, rfl⟩

theorem readsBack_arr {items : List Json} (hitems : ∀ v ∈ items, Textual v)
    (heach : ∀ v ∈ items, ReadsBack v) : ReadsBack (.arr items) := by
  intro fuel depth rest hfuel hdepth _
  obtain ⟨fuel, rfl⟩ : ∃ n, fuel = n + 1 := ⟨fuel - 1, by omega⟩
  have hrender : render (.arr items) ++ rest = '[' :: (renderItems items ++ ']' :: rest) := by
    simp [render]
  have hlength : (render (.arr items)).length = (renderItems items).length + 2 := by simp [render]
  rw [hlength] at hfuel hdepth
  have hopen : ¬ depth = 0 := by omega
  rw [hrender, readValue, skip_cons (by decide)]
  simp only [if_neg hopen]
  cases items with
  | nil =>
    rw [renderItems, List.nil_append, skip_cons (by decide)]
    rfl
  | cons v vs =>
    have hread := readItems_renderItems (List.cons_ne_nil v vs) heach fuel (depth - 1) rest
      (by omega) (by omega)
    obtain ⟨c, cs, hcs, hspace, hclose⟩ := exists_cons_render (hitems v List.mem_cons_self)
    obtain ⟨tail, htail⟩ := renderItems_cons v vs
    rw [htail, hcs, List.cons_append, List.cons_append] at hread ⊢
    rw [skip_cons hspace]
    -- the first item does not start with the closing bracket
    split
    · rename_i heq
      exact absurd (List.cons.inj heq).1 hclose
    · rw [hread]

theorem setMember_of_new {name : String} {v : Json} {ms : List (String × Json)}
    (h : name ∉ ms.map Prod.fst) : setMember name v ms = ms ++ [(name, v)] := by
  induction ms with
  | nil => rfl
  | cons m ms ih =>
    obtain ⟨n, w⟩ := m
    rw [List.map_cons, List.mem_cons, not_or] at h
    rw [setMember, if_neg (Ne.symm h.1), ih h.2, List.cons_append]

/-- A member is read up to what follows its value. -/
theorem readMembers_member {name : String} {v : Json} {fuel depth : Nat}
    {seen : List (String × Json)} {c : Char} {rest : List Char}
    (hv : readValue .message fuel depth (render v ++ c :: rest) = some (v, c :: rest))
    (hc : Ends (c :: rest)) :
    readMembers .message (fuel + 1) depth seen (quote name ++ ':' :: (render v ++ c :: rest)) =
      match c :: rest with
      | '\x7d' :: rest => some (setMember name v seen, rest)
      | ',' :: rest => readMembers .message fuel depth (setMember name v seen) rest
      | _ => none := by
  have hquote : quote name ++ ':' :: (render v ++ c :: rest) =
      '"' :: (name.toList.flatMap escape ++ '"' :: (':' :: (render v ++ c :: rest))) := by
    simp [quote]
  have hfits : ∀ cs ds, Dialect.message.nameFits cs ds = true := fun _ _ => rfl
  rw [hquote, readMembers, skip_cons (by decide)]
  simp only [quoted_quote, skip_cons (show isSpace ':' = false by decide), hfits, hv,
    skip_of_ends hc, String.ofList_toList]
  rfl

theorem readMembers_renderMembers {members : List (String × Json)} (hne : members ≠ [])
    (heach : ∀ m ∈ members, ReadsBack m.2) :
    ∀ (fuel depth : Nat) (seen : List (String × Json)) (rest : List Char),
      ((seen ++ members).map Prod.fst).Nodup → (renderMembers members).length + 1 < fuel →
      (renderMembers members).length ≤ depth →
      readMembers .message fuel depth seen (renderMembers members ++ '\x7d' :: rest) =
        some (seen ++ members, rest) := by
  induction members with
  | nil => exact absurd rfl hne
  | cons m ms ih =>
    intro fuel depth seen rest hnames hfuel hdepth
    obtain ⟨fuel, rfl⟩ : ∃ n, fuel = n + 1 := ⟨fuel - 1, by omega⟩
    obtain ⟨name, v⟩ := m
    have hv : ReadsBack v := heach (name, v) List.mem_cons_self
    have hnew : name ∉ seen.map Prod.fst := by
      rw [List.map_append, List.nodup_append] at hnames
      exact fun h => hnames.2.2 name h name List.mem_cons_self rfl
    cases ms with
    | nil =>
      have hends : Ends ('\x7d' :: rest) := .inr (.inr rfl)
      have hsplit : renderMembers [(name, v)] = quote name ++ ':' :: render v := rfl
      rw [hsplit, List.length_append, List.length_cons] at hfuel hdepth
      rw [hsplit, List.append_assoc, List.cons_append,
        readMembers_member (hv (by omega) (by omega) hends) hends, setMember_of_new hnew]
      rfl
    | cons n ns =>
      have hends : Ends (',' :: (renderMembers (n :: ns) ++ '\x7d' :: rest)) := .inl rfl
      have hsplit : renderMembers ((name, v) :: n :: ns) =
          quote name ++ ':' :: render v ++ ',' :: renderMembers (n :: ns) := rfl
      rw [hsplit, List.length_append, List.length_append, List.length_cons, List.length_cons]
        at hfuel hdepth
      rw [hsplit, List.append_assoc, List.append_assoc, List.cons_append, List.cons_append,
        readMembers_member (hv (by omega) (by omega) hends) hends, setMember_of_new hnew]
      have hread := ih (List.cons_ne_nil _ _) (fun x hx => heach x (List.mem_cons_of_mem _ hx)) fuel
        depth (seen ++ [(name, v)]) rest (by simpa using hnames) (by omega) (by omega)
      simpa using hread

theorem renderMembers_cons (m : String × Json) (ms : List (String × Json)) :
    ∃ tail, renderMembers (m :: ms) = '"' :: tail := by
  cases ms with
  | nil => exact ⟨_, rfl⟩
  | cons n ns => exact ⟨_, rfl⟩

theorem readsBack_obj {members : List (String × Json)} (hnames : (members.map Prod.fst).Nodup)
    (heach : ∀ m ∈ members, ReadsBack m.2) : ReadsBack (.obj members) := by
  intro fuel depth rest hfuel hdepth _
  obtain ⟨fuel, rfl⟩ : ∃ n, fuel = n + 1 := ⟨fuel - 1, by omega⟩
  have hrender : render (.obj members) ++ rest =
      '\x7b' :: (renderMembers members ++ '\x7d' :: rest) := by
    simp [render]
  have hlength : (render (.obj members)).length = (renderMembers members).length + 2 := by
    simp [render]
  rw [hlength] at hfuel hdepth
  have hopen : ¬ depth = 0 := by omega
  rw [hrender, readValue, skip_cons (by decide)]
  simp only [if_neg hopen]
  cases members with
  | nil =>
    rw [renderMembers, List.nil_append, skip_cons (by decide)]
    rfl
  | cons m ms =>
    have hread := readMembers_renderMembers (List.cons_ne_nil m ms) heach fuel (depth - 1) [] rest
      hnames (by omega) (by omega)
    obtain ⟨tail, htail⟩ := renderMembers_cons m ms
    rw [htail, List.cons_append] at hread ⊢
    rw [skip_cons (by decide)]
    -- the first member starts with a quote
    split
    · rename_i heq
      exact absurd (List.cons.inj heq).1 (by decide)
    · rw [hread]
      rfl

theorem readsBack {v : Json} (h : Textual v) : ReadsBack v := by
  induction h with
  | null =>
    intro fuel depth rest hfuel _ _
    obtain ⟨fuel, rfl⟩ : ∃ n, fuel = n + 1 := ⟨fuel - 1, by omega⟩
    rfl
  | bool b =>
    intro fuel depth rest hfuel _ _
    obtain ⟨fuel, rfl⟩ : ∃ n, fuel = n + 1 := ⟨fuel - 1, by omega⟩
    cases b <;> rfl
  | int word => exact readsBack_int word
  | str s =>
    intro fuel depth rest hfuel _ _
    obtain ⟨fuel, rfl⟩ : ∃ n, fuel = n + 1 := ⟨fuel - 1, by omega⟩
    have hrender : render (.str s) ++ rest =
        '"' :: (s.toList.flatMap escape ++ '"' :: rest) := by
      simp [render, quote]
    rw [hrender, readValue, skip_cons (by decide)]
    simp only [quoted_quote, String.ofList_toList]
  | arr hitems ih => exact readsBack_arr hitems ih
  | obj hnames _ ih => exact readsBack_obj hnames ih

theorem ofText?_compact {v : Json} (h : Textual v) : ofText? (compact v) = some v := by
  have hread := @readsBack v h (v.render.length + 1) v.render.length [] (Nat.lt_succ_self _)
    (Nat.le_refl _) trivial
  rw [List.append_nil] at hread
  simp only [ofText?, compact, String.toList_ofList, hread]
  rfl

theorem compact_injective {v w : Json} (hv : Textual v) (hw : Textual w)
    (h : compact v = compact w) : v = w := by
  have hread := ofText?_compact hv
  rw [h, ofText?_compact hw] at hread
  exact (Option.some.inj hread).symm

end ScopedAccess.Json
