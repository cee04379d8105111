import Mathlib.Algebra.Ring.Nat
import Mathlib.Data.List.Forall2
import ScopedAccess.Duration.Text
import ScopedAccess.Proofs.Text

/-!
# ScopedAccess.Proofs.DurationText

Durations written as text are read back.

* `Part.Counts`: a part counts a unit under one of its names. `counts_parts`: so do all parts that a
  duration is written in, and `sum_parts`: they add up to it, up to the longest duration.
* `Part.read?_chars` and `readAll?_joinParts`: parts are read one by one, whatever follows a part.
* `sum?_amounts`: adding up what was read overflows nowhere as long as the sum does not.
* `ofText?_text`: so a duration comes back, and `trim_text`: trimming its text first changes nothing.
-/

namespace ScopedAccess

open Text Text.Decimal Amount

namespace TimeUnit

/-- Units are counted in whole nanoseconds or in whole seconds, and the first kind is short. -/
theorem wholeGrain_cases (unit : TimeUnit) :
    unit.wholeGrain = 1 ∧ 0 < unit.nanos ∧ unit.nanos ≤ 1000000 ∨
      unit.wholeGrain = 1000000000 ∧ ∃ k, 0 < k ∧ unit.nanos = k * 1000000000 := by
  cases unit with
  | nanosecond | microsecond | millisecond => exact .inl (by decide)
  | second => exact .inr ⟨rfl, 1, by decide⟩
  | minute => exact .inr ⟨rfl, 60, by decide⟩
  | hour => exact .inr ⟨rfl, 3600, by decide⟩
  | day => exact .inr ⟨rfl, 86400, by decide⟩
  | week => exact .inr ⟨rfl, 604800, by decide⟩
  | month => exact .inr ⟨rfl, 2630016, by decide⟩
  | year => exact .inr ⟨rfl, 31557600, by decide⟩

/-- Letters that are a name of a unit. -/
structure IsNamed (unit : TimeUnit) (letters : List Char) : Prop where
  known : ofName? (String.ofList letters) = some unit
  nonempty : letters ≠ []
  all_letters : letters.all isLetter = true

theorem IsNamed.letters {unit : TimeUnit} {letters : List Char} (h : unit.IsNamed letters) :
    ∀ c ∈ letters, isLetter c = true :=
  List.all_eq_true.1 h.all_letters

end TimeUnit

namespace Duration

/-! ## Parts -/

namespace Part

/-- A part counts a unit under one of its names. Of a unit shorter than a second there are less than
a thousand. -/
structure Counts (p : Part) (unit : TimeUnit) : Prop where
  named : unit.IsNamed p.unit
  small : unit.wholeGrain = 1 → p.count < 1000

def IsTime (p : Part) : Prop := ∃ unit, p.Counts unit

/-- The length of a part. -/
def nanos (p : Part) : Nat :=
  match TimeUnit.ofName? (String.ofList p.unit) with
  | some unit => p.count * unit.nanos
  | none => 0

/-- What a part is read as. -/
def amount (p : Part) : Amount := ⟨digits p.count, none, p.unit⟩

variable {p : Part} {unit : TimeUnit}

theorem Counts.nanos_eq (h : p.Counts unit) : p.nanos = p.count * unit.nanos := by
  rw [nanos, h.named.known]

end Part

theorem isNamed_plural (count : Nat) {unit : String} {u : TimeUnit}
    (hone : TimeUnit.ofName? unit = some u) (hmany : TimeUnit.ofName? (unit ++ "s") = some u)
    (hnonempty : unit ≠ "") (hletters : unit.toList.all isLetter = true) :
    u.IsNamed (plural unit count) := by
  have hne : unit.toList ≠ [] := mt String.toList_eq_nil_iff.1 hnonempty
  unfold plural
  split
  · refine ⟨?_, hne, hletters⟩
    rw [String.ofList_toList]
    exact hone
  · refine ⟨?_, ?_, ?_⟩
    · rw [String.ofList_append, String.ofList_toList]
      exact hmany
    · simp
    · rw [List.all_append, hletters]
      decide

/-- Every part that a duration is written in counts a unit. -/
theorem counts_parts (d : Duration) :
    List.Forall₂ Part.Counts d.parts
      [.year, .month, .day, .hour, .minute, .second, .millisecond, .microsecond, .nanosecond] := by
  have hyear (n : Nat) : TimeUnit.year.IsNamed (plural "year" n) :=
    isNamed_plural n (by decide) (by decide) (by decide) (by decide)
  have hmonth (n : Nat) : TimeUnit.month.IsNamed (plural "month" n) :=
    isNamed_plural n (by decide) (by decide) (by decide) (by decide)
  have hday (n : Nat) : TimeUnit.day.IsNamed (plural "day" n) :=
    isNamed_plural n (by decide) (by decide) (by decide) (by decide)
  have hhour : TimeUnit.hour.IsNamed ['h'] := ⟨by decide, by decide, by decide⟩
  have hminute : TimeUnit.minute.IsNamed ['m'] := ⟨by decide, by decide, by decide⟩
  have hsecond : TimeUnit.second.IsNamed ['s'] := ⟨by decide, by decide, by decide⟩
  have hmilli : TimeUnit.millisecond.IsNamed ['m', 's'] := ⟨by decide, by decide, by decide⟩
  have hmicro : TimeUnit.microsecond.IsNamed ['u', 's'] := ⟨by decide, by decide, by decide⟩
  have hnano : TimeUnit.nanosecond.IsNamed ['n', 's'] := ⟨by decide, by decide, by decide⟩
  have hlong {unit : TimeUnit} {n : Nat} (h : unit.wholeGrain ≠ 1) :
      unit.wholeGrain = 1 → n < 1000 := fun e => absurd e h
  exact .cons ⟨hyear _, hlong (by decide)⟩ <| .cons ⟨hmonth _, hlong (by decide)⟩ <|
    .cons ⟨hday _, hlong (by decide)⟩ <| .cons ⟨hhour, hlong (by decide)⟩ <|
    .cons ⟨hminute, hlong (by decide)⟩ <| .cons ⟨hsecond, hlong (by decide)⟩ <|
    .cons ⟨hmilli, fun _ => show _ / 1000000 < 1000 by omega⟩ <|
    .cons ⟨hmicro, fun _ => show _ % 1000 < 1000 by omega⟩ <|
    .cons ⟨hnano, fun _ => show _ % 1000 < 1000 by omega⟩ .nil

theorem isTime_of_counts {ps : List Part} {units : List TimeUnit}
    (h : List.Forall₂ Part.Counts ps units) : ∀ p ∈ ps, p.IsTime := by
  induction h with
  | nil => exact fun p hp => absurd hp List.not_mem_nil
  | cons hp _ ih => exact List.forall_mem_cons.2 ⟨⟨_, hp⟩, ih⟩

theorem sum_of_counts {ps : List Part} {units : List TimeUnit}
    (h : List.Forall₂ Part.Counts ps units) :
    (ps.map Part.nanos).sum =
      (List.zipWith (· * ·) (ps.map Part.count) (units.map TimeUnit.nanos)).sum := by
  induction h with
  | nil => rfl
  | cons hp _ ih =>
    rw [List.map_cons, List.sum_cons, hp.nanos_eq, ih, List.map_cons, List.map_cons,
      List.zipWith_cons_cons, List.sum_cons]

theorem split_seconds (s : Nat) :
    s / 31557600 * 31557600 + s % 31557600 / 2630016 * 2630016 +
      s % 31557600 % 2630016 / 86400 * 86400 + s % 31557600 % 2630016 % 86400 / 3600 * 3600 +
      s % 31557600 % 2630016 % 86400 % 3600 / 60 * 60 + s % 31557600 % 2630016 % 86400 % 60 = s := by
  have hsecond : s % 31557600 % 2630016 % 86400 % 60 =
      s % 31557600 % 2630016 % 86400 % 3600 % 60 :=
    (Nat.mod_mod_of_dvd _ (by decide)).symm
  rw [hsecond, Nat.add_assoc, Nat.div_add_mod', Nat.add_assoc, Nat.div_add_mod', Nat.add_assoc,
    Nat.div_add_mod', Nat.add_assoc, Nat.div_add_mod', Nat.div_add_mod']

theorem split_nanos (n : Nat) : n / 1000000 * 1000000 + n / 1000 % 1000 * 1000 + n % 1000 = n := by
  have hmilli : n / 1000 / 1000 = n / 1000000 := Nat.div_div_eq_div_mul n 1000 1000
  rw [← hmilli]
  omega

theorem sum_zipWith_nine (a b c d e f g h i a' b' c' d' e' f' g' h' i' : Nat) :
    (List.zipWith (· * ·) [a, b, c, d, e, f, g, h, i] [a', b', c', d', e', f', g', h', i']).sum =
      a * a' + b * b' + c * c' + d * d' + e * e' + f * f' + g * g' + h * h' + i * i' := by
  simp only [List.zipWith_cons_cons, List.zipWith_nil_left, List.sum_cons, List.sum_nil]
  omega

/-- The parts of a duration add up to it. -/
theorem sum_parts (d : Duration) : (d.parts.map Part.nanos).sum = d.nanos := by
  have hunits : [TimeUnit.year, .month, .day, .hour, .minute, .second, .millisecond, .microsecond,
      .nanosecond].map TimeUnit.nanos =
        [31557600 * 1000000000, 2630016 * 1000000000, 86400 * 1000000000, 3600 * 1000000000,
          60 * 1000000000, 1000000000, 1000000, 1000, 1] := rfl
  -- the counts are variables here: their quotients and remainders must not be computed with
  have hsum : ∀ years months days hours minutes seconds millis micros nanos : Nat,
      years * (31557600 * 1000000000) + months * (2630016 * 1000000000) +
        days * (86400 * 1000000000) + hours * (3600 * 1000000000) + minutes * (60 * 1000000000) +
        seconds * 1000000000 + millis * 1000000 + micros * 1000 + nanos * 1 =
      (years * 31557600 + months * 2630016 + days * 86400 + hours * 3600 + minutes * 60 + seconds) *
        1000000000 + (millis * 1000000 + micros * 1000 + nanos) := by
    intros
    omega
  rw [sum_of_counts d.counts_parts, hunits]
  refine (sum_zipWith_nine _ _ _ _ _ _ _ _ _ _ _ _ _ _ _ _ _ _).trans ?_
  rw [hsum, split_seconds, split_nanos, Nat.div_add_mod']

/-- Parts that count nothing add nothing. -/
theorem sum_filter (ps : List Part) :
    ((ps.filter fun p => p.count != 0).map Part.nanos).sum = (ps.map Part.nanos).sum := by
  induction ps with
  | nil => rfl
  | cons p ps ih =>
    by_cases hp : p.count = 0
    · have hzero : p.nanos = 0 := by
        unfold Part.nanos
        split
        · rw [hp, Nat.zero_mul]
        · rfl
      rw [List.filter_cons_of_neg (by simp [hp]), ih, List.map_cons, List.sum_cons, hzero,
        Nat.zero_add]
    · rw [List.filter_cons_of_pos (by simp [hp]), List.map_cons, List.map_cons, List.sum_cons,
        List.sum_cons, ih]

/-! ## Reading parts -/

theorem isNumeral_of_isDigit {c : Char} (h : isDigit c = true) : isNumeral c = true := by
  rw [isNumeral, h, Bool.true_or]

theorem isBlank_of_isDigit {c : Char} (h : isDigit c = true) : isBlank c = false := by
  simp only [isDigit, Bool.and_eq_true, decide_eq_true_eq, Char.le_def, UInt32.le_iff_toNat_le] at h
  have hlow : 48 ≤ c.toNat := h.1
  have hhigh : c.toNat ≤ 57 := h.2
  simp only [isBlank, Bool.or_eq_false_iff, Bool.and_eq_false_iff, decide_eq_false_iff_not,
    beq_eq_false_iff_ne]
  omega

theorem isNumeral_of_isLetter {c : Char} (h : isLetter c = true) : isNumeral c = false := by
  have hrange : 97 ≤ c.toNat ∧ c.toNat ≤ 122 ∨ 65 ≤ c.toNat ∧ c.toNat ≤ 90 ∨ c.toNat = 181 := by
    simp only [isLetter, Bool.or_eq_true, Bool.and_eq_true, decide_eq_true_eq, Char.le_def,
      UInt32.le_iff_toNat_le, beq_iff_eq] at h
    rcases h with (h | h) | rfl
    · exact .inl h
    · exact .inr (.inl h)
    · exact .inr (.inr rfl)
  have hdigit : isDigit c = false := by
    rw [← Bool.not_eq_true, isDigit, Bool.and_eq_true, decide_eq_true_eq, decide_eq_true_eq,
      Char.le_def, Char.le_def, UInt32.le_iff_toNat_le, UInt32.le_iff_toNat_le]
    intro hd
    have hlow : 48 ≤ c.toNat := hd.1
    have hhigh : c.toNat ≤ 57 := hd.2
    omega
  rw [isNumeral, hdigit, Bool.false_or]
  simp only [isBlank, Bool.or_eq_false_iff, Bool.and_eq_false_iff, decide_eq_false_iff_not,
    beq_eq_false_iff_ne]
  omega

theorem isBlank_of_isLetter {c : Char} (h : isLetter c = true) : isBlank c = false :=
  (Bool.or_eq_false_iff.1 (isNumeral_of_isLetter h)).2

/-- What may follow a part: nothing, or the blank before the next one. -/
def Breaks (rest : List Char) : Prop := ∀ c, rest.head? = some c → c = ' '

/-- A part is read up to what follows it. -/
theorem Part.read?_chars {p : Part} (h : p.IsTime) (rest : List Char) (hrest : Breaks rest) :
    read? (p.chars ++ rest) = some (p.amount, rest) := by
  obtain ⟨unit, hnamed, -⟩ := h
  obtain ⟨u, us, hu⟩ := List.exists_cons_of_ne_nil hnamed.nonempty
  obtain ⟨c, cs, hcs, hc⟩ := exists_cons_digits p.count
  have hletter : isLetter u = true := hnamed.letters u (hu ▸ List.mem_cons_self)
  have hpoint : u ≠ '.' := fun e => absurd (e ▸ hletter) (by decide)
  -- the count ends where the unit begins, and the unit where the part ends
  have hcount : ∀ x, (p.unit ++ rest).head? = some x → isNumeral x = false := by
    intro x hx
    rw [hu, List.cons_append, List.head?_cons, Option.some.injEq] at hx
    exact isNumeral_of_isLetter (hx ▸ hletter)
  have hunit : ∀ x, rest.head? = some x → isLetter x = false := by
    intro x hx
    rw [hrest x hx]
    decide
  have hnumerals : ∀ x ∈ digits p.count, isNumeral x = true :=
    fun x hx => isNumeral_of_isDigit (mem_digits hx)
  have hwhole : (p.chars ++ rest).takeWhile isNumeral = digits p.count := by
    rw [chars, List.append_assoc]
    exact takeWhile_append_of_stops hnumerals hcount
  have htail : (p.chars ++ rest).dropWhile isNumeral = p.unit ++ rest := by
    rw [chars, List.append_assoc]
    exact dropWhile_append_of_stops hnumerals hcount
  have hdigits : (digits p.count).filter isDigit = digits p.count :=
    List.filter_eq_self.2 fun x hx => mem_digits hx
  have hletters := takeWhile_append_of_stops hnamed.letters hunit
  have hafter := dropWhile_append_of_stops hnamed.letters hunit
  have hchars : p.chars ++ rest = c :: (cs ++ p.unit ++ rest) := by
    rw [chars, hcs, List.cons_append, List.cons_append]
  rw [hchars] at hwhole htail ⊢
  rw [read?, hc, hwhole, htail, hdigits]
  rw [hu] at hletters hafter ⊢
  simp only [List.cons_append] at hletters hafter ⊢
  simp [hpoint, hletters, hafter, amount, hu]

theorem joinParts_cons (p : Part) {ps : List Part} (hne : ps ≠ []) :
    joinParts (p :: ps) = p.chars ++ ' ' :: joinParts ps := by
  cases ps with
  | nil => exact absurd rfl hne
  | cons q qs => rfl

theorem exists_cons_chars (p : Part) : ∃ c cs, p.chars = c :: cs ∧ isDigit c = true := by
  obtain ⟨c, cs, hcs, hc⟩ := exists_cons_digits p.count
  exact ⟨c, cs ++ p.unit, by rw [Part.chars, hcs, List.cons_append], hc⟩

/-- A text of parts starts with a digit. -/
theorem exists_cons_joinParts {ps : List Part} (hne : ps ≠ []) :
    ∃ c cs, joinParts ps = c :: cs ∧ isDigit c = true := by
  match ps, hne with
  | [p], _ => exact exists_cons_chars p
  | p :: q :: rest, _ =>
    obtain ⟨c, cs, hcs, hc⟩ := exists_cons_chars p
    exact ⟨c, cs ++ ' ' :: joinParts (q :: rest), by
      rw [joinParts_cons p (List.cons_ne_nil _ _), hcs, List.cons_append], hc⟩

theorem dropWhile_isBlank_joinParts {ps : List Part} (hne : ps ≠ []) :
    (joinParts ps).dropWhile isBlank = joinParts ps := by
  obtain ⟨c, cs, hcs, hc⟩ := exists_cons_joinParts hne
  rw [hcs, List.dropWhile_cons, isBlank_of_isDigit hc]
  rfl

/-- Parts are read one by one, with or without blanks in front. -/
theorem readAll?_joinParts {ps : List Part} (hne : ps ≠ []) (h : ∀ p ∈ ps, p.IsTime) :
    ∀ (fuel : Nat) (cs : List Char), cs.dropWhile isBlank = joinParts ps → ps.length ≤ fuel →
      readAll? fuel cs = some (ps.map Part.amount) := by
  induction ps with
  | nil => exact absurd rfl hne
  | cons p ps ih =>
    intro fuel cs hcs hfuel
    obtain ⟨fuel, rfl⟩ : ∃ n, fuel = n + 1 := ⟨fuel - 1, by rw [List.length_cons] at hfuel; omega⟩
    have hp : p.IsTime := h p List.mem_cons_self
    by_cases hlast : ps = []
    · subst hlast
      have hread := Part.read?_chars hp [] (by simp [Breaks])
      rw [List.append_nil] at hread
      rw [readAll?, hcs, joinParts, hread]
      rfl
    · have hread := Part.read?_chars hp (' ' :: joinParts ps) (by simp [Breaks])
      have hmore : ¬ (' ' :: joinParts ps).all isBlank = true := by
        obtain ⟨c, cs, hcs, hc⟩ := exists_cons_joinParts hlast
        rw [hcs]
        simp [isBlank_of_isDigit hc]
      have hblank : (' ' :: joinParts ps).dropWhile isBlank = joinParts ps :=
        (List.dropWhile_cons_of_pos (by decide)).trans (dropWhile_isBlank_joinParts hlast)
      have hrest := ih hlast (fun q hq => h q (List.mem_cons_of_mem p hq)) fuel _ hblank
        (Nat.le_of_succ_le_succ hfuel)
      rw [readAll?, hcs, joinParts_cons p hlast, hread]
      simp only [if_neg hmore, hrest, List.map_cons]

theorem length_le_joinParts (ps : List Part) : ps.length ≤ (joinParts ps).length := by
  induction ps with
  | nil => exact Nat.le_refl 0
  | cons p ps ih =>
    obtain ⟨c, cs, hcs, -⟩ := exists_cons_chars p
    by_cases hlast : ps = []
    · subst hlast
      rw [joinParts, hcs]
      simp
    · rw [joinParts_cons p hlast, hcs]
      simp only [List.length_cons, List.length_append]
      omega

/-! ## Adding parts up -/

theorem nanos_ofNanos? {n : Nat} (h : n < UInt64.size * 1000000000) :
    (ofNanos? n).map Duration.nanos = some n := by
  rw [ofNanos?, dif_pos h]
  rfl

/-- A part is added to a sum that stays within the longest duration. -/
theorem Part.Counts.addTo? {p : Part} {unit : TimeUnit} (h : p.Counts unit) {total : Nat}
    (hbound : total + p.nanos < UInt64.size * 1000000000) :
    Amount.addTo? total p.amount = some (total + p.nanos) := by
  rw [h.nanos_eq] at hbound ⊢
  have hsum := nanos_ofNanos? hbound
  simp only [UInt64.size] at hbound
  rw [Amount.addTo?, Part.amount, h.named.known]
  simp only [addWhole?, valueFrom_digits, addFraction?]
  rcases unit.wholeGrain_cases with ⟨hgrain, hpos, hshort⟩ | ⟨hgrain, k, hpos, hlong⟩
  · have hsmall := h.small hgrain
    have hcount : p.count * unit.nanos ≤ 1000 * 1000000 :=
      Nat.mul_le_mul (Nat.le_of_lt hsmall) hshort
    have hword : word? p.count = some p.count := if_pos (by simp only [UInt64.size]; omega)
    have hscaled : word? (p.count * unit.nanos) = some (p.count * unit.nanos) :=
      if_pos (by simp only [UInt64.size]; omega)
    have hfits : ¬ UInt64.size ≤ total % 1000000000 + p.count * unit.nanos := by
      simp only [UInt64.size]
      omega
    simp [hword, hgrain, hscaled, add?, hfits, hsum]
  · have hwhole : unit.nanos / 1000000000 = k := by rw [hlong]; omega
    have hseconds : p.count * unit.nanos = p.count * k * 1000000000 := by
      rw [hlong, Nat.mul_assoc]
    have hcount : p.count ≤ p.count * k := Nat.le_mul_of_pos_right _ hpos
    have hword : word? p.count = some p.count := if_pos (by simp only [UInt64.size]; omega)
    have hscaled : word? (p.count * k) = some (p.count * k) :=
      if_pos (by simp only [UInt64.size]; omega)
    rw [hseconds] at hsum ⊢
    simp [hword, hgrain, hwhole, hscaled, add?, hsum]

/-- Adding up what was read overflows nowhere as long as the sum does not. -/
theorem sum?_amounts {ps : List Part} (h : ∀ p ∈ ps, p.IsTime) :
    ∀ total, total + (ps.map Part.nanos).sum < UInt64.size * 1000000000 →
      sum? total (ps.map Part.amount) = some (total + (ps.map Part.nanos).sum) := by
  induction ps with
  | nil =>
    intro total _
    rfl
  | cons p ps ih =>
    intro total hbound
    obtain ⟨unit, hp⟩ := h p List.mem_cons_self
    rw [List.map_cons, List.sum_cons] at hbound
    rw [List.map_cons, List.map_cons, List.sum_cons, sum?, hp.addTo? (by omega)]
    simp only
    rw [ih (fun q hq => h q (List.mem_cons_of_mem p hq)) _ (by omega), Nat.add_assoc]

/-! ## Whole texts -/

/-- A text of parts ends in a letter. -/
theorem exists_getLast_joinParts {ps : List Part} (hne : ps ≠ []) (h : ∀ p ∈ ps, p.IsTime) :
    ∃ c, (joinParts ps).getLast? = some c ∧ isLetter c = true := by
  induction ps with
  | nil => exact absurd rfl hne
  | cons p ps ih =>
    by_cases hlast : ps = []
    · subst hlast
      obtain ⟨unit, hnamed, -⟩ := h p List.mem_cons_self
      refine ⟨p.unit.getLast hnamed.nonempty, ?_, hnamed.letters _ (List.getLast_mem _)⟩
      rw [joinParts, Part.chars, List.getLast?_append_of_ne_nil _ hnamed.nonempty,
        List.getLast?_eq_getLast_of_ne_nil]
    · obtain ⟨c, hc, hletter⟩ := ih hlast fun q hq => h q (List.mem_cons_of_mem p hq)
      refine ⟨c, ?_, hletter⟩
      rw [joinParts_cons p hlast, List.getLast?_append, List.getLast?_cons, hc]
      rfl

/-- The parts that a duration is written with. -/
def writtenParts (d : Duration) : List Part := d.parts.filter fun p => p.count != 0

theorem writtenParts_isTime (d : Duration) : ∀ p ∈ d.writtenParts, p.IsTime :=
  fun p hp => isTime_of_counts d.counts_parts p (List.mem_filter.1 hp).1

theorem sum_writtenParts (d : Duration) : (d.writtenParts.map Part.nanos).sum = d.nanos :=
  (sum_filter d.parts).trans d.sum_parts

theorem text_of_nil {d : Duration} (h : d.writtenParts = []) : d.text = "0s" := by
  unfold writtenParts at h
  rw [text, h]

theorem text_of_ne_nil {d : Duration} (h : d.writtenParts ≠ []) :
    d.text = String.ofList (joinParts d.writtenParts) := by
  unfold writtenParts at h ⊢
  rw [text]
  split
  · contradiction
  · rfl

/-- A duration is read back from its text, whatever its length. -/
theorem ofText?_text (d : Duration) : ofText? d.text = some d := by
  have hsum := d.sum_writtenParts
  by_cases hnone : d.writtenParts = []
  · rw [hnone] at hsum
    have hzero : d = zero := by
      cases d
      cases hsum
      rfl
    rw [text_of_nil hnone, hzero]
    decide
  · rw [text_of_ne_nil hnone, ofText?, String.toList_ofList]
    have hlong : ¬ String.ofList (joinParts d.writtenParts) = "0" := by
      intro he
      obtain ⟨c, hc, hletter⟩ := exists_getLast_joinParts hnone d.writtenParts_isTime
      rw [← String.toList_inj, String.toList_ofList] at he
      rw [he] at hc
      cases hc
      exact absurd hletter (by decide)
    have hread := readAll?_joinParts hnone d.writtenParts_isTime
      ((joinParts d.writtenParts).length + 1) _ (dropWhile_isBlank_joinParts hnone)
      (Nat.le_succ_of_le (length_le_joinParts _))
    have htotal := sum?_amounts d.writtenParts_isTime 0 (by rw [hsum, Nat.zero_add]; exact d.bounded)
    rw [if_neg hlong, hread]
    simp only [htotal, Nat.zero_add, hsum, ofNanos?_nanos]

/-- The text of a duration has no blanks around it. -/
theorem trim_text (d : Duration) : trim d.text = d.text := by
  by_cases hnone : d.writtenParts = []
  · rw [text_of_nil hnone]
    decide
  · obtain ⟨c, hc, hletter⟩ := exists_getLast_joinParts hnone d.writtenParts_isTime
    rw [text_of_ne_nil hnone, trim, String.toList_ofList, trimChars,
      dropWhile_isBlank_joinParts hnone, dropTrailingBlanks_eq_self]
    intro x hx
    cases hc.symm.trans hx
    exact isBlank_of_isLetter hletter

end Duration

end ScopedAccess
