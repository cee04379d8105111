import ScopedAccess.CallContext

/-!
# ScopedAccess.Proofs.Timeline

Laws of work that takes time.

* `ending_andThenAt`, `ending_beside`, `ending_all`, `ending_asked`: when work ends and with what.
* `Orderly`: effects happen in the order of their instants, and none after the end.
* `stoppedBefore_andThenAt` and `stoppedBefore_beside`: to give up every piece of some work at an
  instant is to give up the whole work at it.
* `Only`: every effect of some work is of one kind.
-/

namespace ScopedAccess

/-- The answer, if it arrives within a limit. -/
def Reply.within? (limit : Nat) : Reply α → Option α
  | .after millis value => if millis ≤ limit then some value else none
  | .silent => none

/-- How long an answer is waited for, up to a limit. -/
def Reply.waited (limit : Nat) : Reply α → Nat
  | .after millis _ => min millis limit
  | .silent => limit

/-- The instant an answer arrives at, and the answer. -/
def Reply.ending : Reply α → Option (Nat × α)
  | .after millis value => some (millis, value)
  | .silent => none

theorem eq_ok_of_toOption {ε α : Type} {result : Except ε α} {a : α}
    (h : result.toOption = some a) : result = .ok a := by
  cases result with
  | error error => cases h
  | ok own =>
    cases h
    rfl

namespace Run

variable {ε α β γ : Type}

theorem ext_of {r s : Run ε α} (ht : r.trace = s.trace) (he : r.ending = s.ending) : r = s := by
  cases r; cases s; cases ht; cases he; rfl

/-! ## Endings -/

theorem ending_await (reply : Reply α) : (await reply : Run ε α).ending = reply.ending := by
  cases reply <;> rfl

theorem ending_andThenAt (r : Run ε α) (next : Nat → α → Run ε β) :
    (r.andThenAt next).ending =
      r.ending.bind fun x => (next x.1 x.2).ending.map fun y => (x.1 + y.1, y.2) := by
  unfold andThenAt
  cases r.ending with
  | none => rfl
  | some x => rfl

theorem ending_andThen (r : Run ε α) (next : α → Run ε β) :
    (r.andThen next).ending =
      r.ending.bind fun x => (next x.2).ending.map fun y => (x.1 + y.1, y.2) :=
  ending_andThenAt r _

theorem ending_map (f : α → β) (r : Run ε α) :
    (r.map f).ending = r.ending.map fun x => (x.1, f x.2) := rfl

theorem ending_beside {r : Run ε α} {s : Run ε β} {t u : Nat} {a : α} {b : β}
    (hr : r.ending = some (t, a)) (hs : s.ending = some (u, b)) :
    (r.beside s).ending = some (max t u, (a, b)) := by
  simp only [beside, hr, hs, bothEndings]

theorem value?_of_ending {r : Run ε α} {t : Nat} {a : α} (h : r.ending = some (t, a)) :
    r.value? = some a := by
  rw [value?, h]; rfl

theorem value?_of_toOption {r : Run ε (Except β α)} {a : α}
    (h : r.value?.bind Except.toOption = some a) : r.value? = some (.ok a) := by
  obtain ⟨result, hresult, hok⟩ := Option.bind_eq_some_iff.1 h
  rw [hresult, eq_ok_of_toOption hok]

theorem ending_of_toOption {r : Run ε (Except β α)} {t : Nat} {a : α}
    (h : (r.ending.map fun x => (x.1, x.2.toOption)) = some (t, some a)) :
    r.ending = some (t, .ok a) := by
  obtain ⟨⟨u, result⟩, hend, hresult⟩ := Option.map_eq_some_iff.1 h
  obtain ⟨rfl, hok⟩ := Prod.mk.inj hresult
  rw [hend, show result = .ok a from eq_ok_of_toOption hok]

theorem ending_all (f : γ → Run ε α) (u : γ → Nat) (g : γ → α) (xs : List γ)
    (h : ∀ x ∈ xs, (f x).ending = some (u x, g x)) :
    (all (xs.map f)).ending = some ((xs.map u).foldr max 0, xs.map g) := by
  induction xs with
  | nil => rfl
  | cons x xs ih =>
    have hx := h x List.mem_cons_self
    have hxs := ih fun y hy => h y (List.mem_cons_of_mem x hy)
    simp only [List.map_cons, all, ending_map, ending_beside hx hxs, Option.map_some,
      List.foldr_cons]

theorem ending_within {r : Run ε α} {t : Nat} {a : α} (h : r.ending = some (t, a)) (limit : Nat)
    (late : α) :
    (r.within limit late).ending = if t ≤ limit then some (t, a) else some (limit, late) := by
  have hb : r.endsBefore (limit + 1) = decide (t ≤ limit) := by
    simp only [endsBefore, h, Nat.lt_succ_iff]
  unfold within
  by_cases ht : t ≤ limit
  · simp [hb, ht, h]
  · simp [hb, ht]

theorem ending_within_of_none {r : Run ε α} (h : r.ending = none) (limit : Nat) (late : α) :
    (r.within limit late).ending = some (limit, late) := by
  simp [within, endsBefore, h]

theorem ending_asked {r : Run ε β} {reply : Reply α} {f : α → β}
    (h : r.ending = reply.ending.map fun x => (x.1, f x.2)) (limit : Nat) (late : β) :
    (r.within limit late).ending =
      some (reply.waited limit, ((reply.within? limit).map f).getD late) := by
  cases reply with
  | silent => exact ending_within_of_none h limit late
  | after t a =>
    rw [ending_within h]
    by_cases ht : t ≤ limit
    · simp [Reply.waited, Reply.within?, ht]
    · simp [Reply.waited, Reply.within?, ht, Nat.min_eq_right (Nat.le_of_not_le ht)]

/-! ## Traces up to an instant -/

theorem before_append (limit : Nat) (xs ys : List (Nat × ε)) :
    before limit (xs ++ ys) = before limit xs ++ before limit ys :=
  List.filter_append ..

theorem before_before (limit : Nat) (xs : List (Nat × ε)) :
    before limit (before limit xs) = before limit xs := by
  simp [before, List.filter_filter]

theorem before_eq_self {limit : Nat} {xs : List (Nat × ε)} (h : ∀ x ∈ xs, x.1 < limit) :
    before limit xs = xs := by
  simpa [before, List.filter_eq_self] using fun t e => h (t, e)

theorem before_eq_nil {limit : Nat} {xs : List (Nat × ε)} (h : ∀ x ∈ xs, limit ≤ x.1) :
    before limit xs = [] := by
  simpa [before, List.filter_eq_nil_iff] using fun t e => h (t, e)

theorem before_cons_of_lt {limit : Nat} {x : Nat × ε} {xs : List (Nat × ε)} (h : x.1 < limit) :
    before limit (x :: xs) = x :: before limit xs := by
  simp [before, h]

theorem before_shift {delay limit : Nat} (h : delay ≤ limit) (xs : List (Nat × ε)) :
    before limit (shift delay xs) = shift delay (before (limit - delay) xs) := by
  have hp : ∀ x : Nat × ε, delay + x.1 < limit ↔ x.1 < limit - delay := by
    intro x; omega
  simp only [before, shift, List.filter_map, Function.comp_def, hp]

theorem le_of_mem_shift {delay : Nat} {xs : List (Nat × ε)} {x : Nat × ε}
    (h : x ∈ shift delay xs) : delay ≤ x.1 := by
  obtain ⟨y, _, rfl⟩ := List.mem_map.1 h
  exact Nat.le_add_right _ _

def InOrder (xs : List (Nat × ε)) : Prop := xs.Pairwise fun x y => x.1 ≤ y.1

theorem mergeTraces_nil : mergeTraces ([] : List (Nat × ε)) [] = [] := by simp [mergeTraces]

theorem mergeTraces_cons_left {x : Nat × ε} {ys : List (Nat × ε)} (xs : List (Nat × ε))
    (h : ∀ y ∈ ys, x.1 ≤ y.1) : mergeTraces (x :: xs) ys = x :: mergeTraces xs ys := by
  cases ys with
  | nil => simp [mergeTraces]
  | cons y ys => simp [mergeTraces, h y List.mem_cons_self]

theorem mergeTraces_cons_right {y : Nat × ε} {xs : List (Nat × ε)} (ys : List (Nat × ε))
    (h : ∀ x ∈ xs, y.1 < x.1) : mergeTraces xs (y :: ys) = y :: mergeTraces xs ys := by
  cases xs with
  | nil => simp [mergeTraces]
  | cons x xs =>
    have hx : ¬ x.1 ≤ y.1 := Nat.not_le.2 (h x List.mem_cons_self)
    simp [mergeTraces, hx]

theorem mem_mergeTraces {x : Nat × ε} {xs ys : List (Nat × ε)} :
    x ∈ mergeTraces xs ys ↔ x ∈ xs ∨ x ∈ ys :=
  List.mem_merge

theorem InOrder.mergeTraces {xs ys : List (Nat × ε)} (hx : InOrder xs) (hy : InOrder ys) :
    InOrder (mergeTraces xs ys) := by
  have h : (List.merge xs ys fun x y => decide (x.1 ≤ y.1)).Pairwise
      fun x y => decide (x.1 ≤ y.1) = true := by
    refine List.pairwise_merge ?_ ?_ xs ys (hx.imp decide_eq_true) (hy.imp decide_eq_true)
    · intro a b c hab hbc
      rw [decide_eq_true_eq] at hab hbc ⊢
      exact Nat.le_trans hab hbc
    · intro a b
      rw [Bool.or_eq_true, decide_eq_true_eq, decide_eq_true_eq]
      exact Nat.le_total a.1 b.1
  exact h.imp of_decide_eq_true

theorem le_of_mem_cons {x : Nat × ε} {xs : List (Nat × ε)} (h : InOrder (x :: xs)) {limit : Nat}
    (hx : limit ≤ x.1) : ∀ y ∈ x :: xs, limit ≤ y.1 := by
  intro y hy
  rcases List.mem_cons.1 hy with rfl | hy
  · exact hx
  · exact Nat.le_trans hx ((List.pairwise_cons.1 h).1 y hy)

theorem before_mergeTraces_of_late {limit : Nat} {xs ys : List (Nat × ε)}
    (hx : ∀ x ∈ xs, limit ≤ x.1) (hy : ∀ y ∈ ys, limit ≤ y.1) :
    before limit (mergeTraces xs ys) = mergeTraces (before limit xs) (before limit ys) := by
  have hboth : ∀ z ∈ mergeTraces xs ys, limit ≤ z.1 := by
    intro z hz
    rcases mem_mergeTraces.1 hz with hz | hz
    · exact hx z hz
    · exact hy z hz
  rw [before_eq_nil hx, before_eq_nil hy, before_eq_nil hboth, mergeTraces_nil]

theorem before_mergeTraces (limit : Nat) {xs ys : List (Nat × ε)} (hx : InOrder xs)
    (hy : InOrder ys) :
    before limit (mergeTraces xs ys) = mergeTraces (before limit xs) (before limit ys) := by
  induction xs generalizing ys with
  | nil => simp [mergeTraces, before]
  | cons x xs ihx =>
    induction ys with
    | nil => simp [mergeTraces, before]
    | cons y ys ihy =>
      have hx' := List.pairwise_cons.1 hx
      have hy' := List.pairwise_cons.1 hy
      -- the merged trace begins with the earlier head; a head past the limit leaves nothing
      by_cases hxy : x.1 ≤ y.1
      · have hlow : ∀ z ∈ y :: ys, x.1 ≤ z.1 := le_of_mem_cons hy hxy
        rw [mergeTraces_cons_left xs hlow]
        by_cases hl : x.1 < limit
        · have hcut : ∀ z ∈ before limit (y :: ys), x.1 ≤ z.1 := fun z hz =>
            hlow z (List.mem_filter.1 hz).1
          rw [before_cons_of_lt hl, before_cons_of_lt hl, mergeTraces_cons_left _ hcut,
            ihx hx'.2 hy]
        · have hall := le_of_mem_cons hx (Nat.le_of_not_lt hl)
          have hall' : ∀ z ∈ y :: ys, limit ≤ z.1 := fun z hz =>
            Nat.le_trans (Nat.le_of_not_lt hl) (hlow z hz)
          rw [← mergeTraces_cons_left xs hlow]
          exact before_mergeTraces_of_late hall hall'
      · have hlow : ∀ z ∈ x :: xs, y.1 < z.1 := le_of_mem_cons hx (Nat.lt_of_not_le hxy)
        rw [mergeTraces_cons_right ys hlow]
        by_cases hl : y.1 < limit
        · have hcut : ∀ z ∈ before limit (x :: xs), y.1 < z.1 := fun z hz =>
            hlow z (List.mem_filter.1 hz).1
          rw [before_cons_of_lt hl, before_cons_of_lt hl, mergeTraces_cons_right _ hcut, ihy hy'.2]
        · have hall := le_of_mem_cons hy (Nat.le_of_not_lt hl)
          have hall' : ∀ z ∈ x :: xs, limit ≤ z.1 := fun z hz =>
            Nat.le_trans (Nat.le_of_not_lt hl) (Nat.le_of_lt (hlow z hz))
          rw [← mergeTraces_cons_right ys hlow]
          exact before_mergeTraces_of_late hall' hall

/-! ## Orderly work -/

/-- Effects happen in the order of their instants, and none of them after the end. -/
structure Orderly (r : Run ε α) : Prop where
  inOrder : InOrder r.trace
  inTime : ∀ t a, r.ending = some (t, a) → ∀ x ∈ r.trace, x.1 ≤ t

namespace Orderly

theorem done (a : α) : (done a : Run ε α).Orderly :=
  ⟨.nil, fun _ _ _ _ hx => absurd hx List.not_mem_nil⟩

theorem emitAll (effects : List ε) : (Run.emitAll effects).Orderly := by
  refine ⟨?_, ?_⟩
  · refine List.pairwise_map.2 (List.pairwise_of_forall fun _ _ => Nat.le_refl 0)
  · rintro t a - _ hx
    obtain ⟨e, _, rfl⟩ := List.mem_map.1 hx
    exact Nat.zero_le t

theorem emit (effect : ε) : (Run.emit effect).Orderly := emitAll [effect]

theorem await (reply : Reply α) : (Run.await reply : Run ε α).Orderly := by
  cases reply <;> exact ⟨.nil, fun _ _ _ _ hx => absurd hx List.not_mem_nil⟩

theorem map {r : Run ε α} (h : r.Orderly) (f : α → β) : (r.map f).Orderly := by
  refine ⟨h.inOrder, fun t b hb => ?_⟩
  rw [ending_map, Option.map_eq_some_iff] at hb
  obtain ⟨⟨u, a⟩, ha, he⟩ := hb
  cases he
  exact h.inTime u a ha

theorem andThenAt {r : Run ε α} {next : Nat → α → Run ε β} (h : r.Orderly)
    (hn : ∀ t a, r.ending = some (t, a) → (next t a).Orderly) : (r.andThenAt next).Orderly := by
  unfold Run.andThenAt
  cases hr : r.ending with
  | none => exact ⟨h.inOrder, fun t a ha => by cases ha⟩
  | some x =>
    obtain ⟨t, a⟩ := x
    have hrest := hn t a hr
    refine ⟨?_, ?_⟩
    · refine List.pairwise_append.2 ⟨h.inOrder, ?_, ?_⟩
      · exact List.pairwise_map.2 (hrest.inOrder.imp fun h => Nat.add_le_add_left h t)
      · intro x hx y hy
        exact Nat.le_trans (h.inTime t a hr x hx) (le_of_mem_shift hy)
    · intro u b hb x hx
      obtain ⟨⟨v, b'⟩, hv, he⟩ := Option.map_eq_some_iff.1 hb
      cases he
      rcases List.mem_append.1 hx with hx | hx
      · exact Nat.le_trans (h.inTime t a hr x hx) (Nat.le_add_right t v)
      · obtain ⟨y, hy, rfl⟩ := List.mem_map.1 hx
        exact Nat.add_le_add_left (hrest.inTime v _ hv y hy) t

theorem andThen {r : Run ε α} {next : α → Run ε β} (h : r.Orderly)
    (hn : ∀ a, (next a).Orderly) : (r.andThen next).Orderly :=
  h.andThenAt fun _ a _ => hn a

theorem beside {r : Run ε α} {s : Run ε β} (hr : r.Orderly) (hs : s.Orderly) :
    (r.beside s).Orderly := by
  refine ⟨hr.inOrder.mergeTraces hs.inOrder, ?_⟩
  intro t c hc x hx
  cases ha : r.ending with
  | none => simp [Run.beside, bothEndings, ha] at hc
  | some y =>
    cases hb : s.ending with
    | none => simp [Run.beside, bothEndings, ha, hb] at hc
    | some z =>
      rw [ending_beside ha hb] at hc
      cases hc
      rcases mem_mergeTraces.1 hx with hx | hx
      · exact Nat.le_trans (hr.inTime _ _ ha x hx) (Nat.le_max_left ..)
      · exact Nat.le_trans (hs.inTime _ _ hb x hx) (Nat.le_max_right ..)

theorem all {rs : List (Run ε α)} (h : ∀ r ∈ rs, r.Orderly) : (Run.all rs).Orderly := by
  induction rs with
  | nil => exact done []
  | cons r rs ih =>
    have hrs := ih fun s hs => h s (List.mem_cons_of_mem r hs)
    exact ((h r List.mem_cons_self).beside hrs).map _

theorem within {r : Run ε α} (h : r.Orderly) (limit : Nat) (late : α) :
    (r.within limit late).Orderly := by
  unfold Run.within
  split
  · exact h
  · refine ⟨h.inOrder.filter _, ?_⟩
    intro t a ha x hx
    cases ha
    have := (List.mem_filter.1 hx).2
    simp only [decide_eq_true_eq] at this
    omega

end Orderly

theorem endsBefore_iff {r : Run ε α} {limit : Nat} :
    r.endsBefore limit = true ↔ ∃ t a, r.ending = some (t, a) ∧ t < limit := by
  cases hr : r.ending with
  | none => simp [endsBefore, hr]
  | some x => simp [endsBefore, hr, Prod.ext_iff]

theorem endsBefore_of_ending {r : Run ε α} {t limit : Nat} {a : α} (h : r.ending = some (t, a)) :
    r.endsBefore limit = decide (t < limit) := by
  simp only [endsBefore, h]

theorem not_endsBefore_zero (r : Run ε α) : ¬ r.endsBefore 0 = true := by
  intro h
  obtain ⟨t, _, _, ht⟩ := endsBefore_iff.1 h
  exact Nat.not_lt_zero t ht

theorem Orderly.before_trace {r : Run ε α} (h : r.Orderly) {limit : Nat}
    (hb : r.endsBefore limit = true) : before limit r.trace = r.trace := by
  obtain ⟨t, a, hr, ht⟩ := endsBefore_iff.1 hb
  exact before_eq_self fun x hx => Nat.lt_of_le_of_lt (h.inTime t a hr x hx) ht

/-! ## Work given up at an instant -/

theorem stoppedBefore_of_endsBefore {r : Run ε α} {limit : Nat} (h : r.endsBefore limit = true)
    (instant : Nat) (a : α) : r.stoppedBefore limit instant a = r := by
  rw [stoppedBefore, if_pos h]

theorem stoppedBefore_of_not {r : Run ε α} {limit : Nat} (h : ¬ r.endsBefore limit = true)
    (instant : Nat) (a : α) :
    r.stoppedBefore limit instant a = ⟨before limit r.trace, some (instant, a)⟩ := by
  rw [stoppedBefore, if_neg h]

theorem ending_stoppedBefore (r : Run ε α) (limit instant : Nat) (a : α) :
    (r.stoppedBefore limit instant a).ending =
      if r.endsBefore limit then r.ending else some (instant, a) := by
  unfold stoppedBefore
  split <;> rfl

theorem map_stoppedBefore (f : α → β) (r : Run ε α) (limit instant : Nat) (a : α) :
    (r.stoppedBefore limit instant a).map f = (r.map f).stoppedBefore limit instant (f a) := by
  have hb : (r.map f).endsBefore limit = r.endsBefore limit := by
    cases hr : r.ending <;> simp [endsBefore, map, hr]
  by_cases h : r.endsBefore limit = true
  · rw [stoppedBefore_of_endsBefore h, stoppedBefore_of_endsBefore (by rw [hb, h])]
  · rw [stoppedBefore_of_not h, stoppedBefore_of_not (by rw [hb]; exact h)]
    rfl

theorem stoppedBefore_stoppedBefore (r : Run ε α) (limit instant : Nat) (a : α) :
    (r.stoppedBefore limit instant a).stoppedBefore limit instant a =
      r.stoppedBefore limit instant a := by
  by_cases h : r.endsBefore limit = true
  · rw [stoppedBefore_of_endsBefore h, stoppedBefore_of_endsBefore h]
  · rw [stoppedBefore_of_not h]
    by_cases hi : instant < limit
    · exact stoppedBefore_of_endsBefore (by simp [endsBefore, hi]) instant a
    · rw [stoppedBefore_of_not (by simp [endsBefore, hi])]
      exact ext_of (before_before limit r.trace) rfl

theorem endsBefore_later {r : Run ε α} {t limit : Nat} (h : t < limit) :
    (r.later t).endsBefore limit = r.endsBefore (limit - t) := by
  cases hr : r.ending with
  | none => simp only [endsBefore, later, hr, Option.map_none]
  | some x =>
    have hlt : t + x.1 < limit ↔ x.1 < limit - t := by omega
    simp only [endsBefore, later, hr, Option.map_some, hlt]

theorem later_stoppedBefore (r : Run ε α) {t limit instant : Nat} (a : α) (hl : t < limit)
    (hi : t ≤ instant) :
    (r.stoppedBefore (limit - t) (instant - t) a).later t =
      (r.later t).stoppedBefore limit instant a := by
  by_cases h : r.endsBefore (limit - t) = true
  · rw [stoppedBefore_of_endsBefore h, stoppedBefore_of_endsBefore (by rw [endsBefore_later hl, h])]
  · rw [stoppedBefore_of_not h, stoppedBefore_of_not (by rw [endsBefore_later hl]; exact h)]
    refine ext_of (before_shift (Nat.le_of_lt hl) r.trace).symm ?_
    simp only [later, Option.map_some, Nat.add_sub_cancel' hi]

theorem endsBefore_later_of_le (r : Run ε α) {t limit : Nat} (h : limit ≤ t) :
    ¬ (r.later t).endsBefore limit = true := by
  cases hr : r.ending with
  | none => simp [endsBefore, later, hr]
  | some x =>
    simp only [endsBefore, later, hr, Option.map_some, decide_eq_true_eq]
    omega

def preceded (xs : List (Nat × ε)) (r : Run ε α) : Run ε α := ⟨xs ++ r.trace, r.ending⟩

theorem stoppedBefore_preceded {xs : List (Nat × ε)} {limit : Nat} (h : before limit xs = xs)
    (r : Run ε α) (instant : Nat) (a : α) :
    (r.preceded xs).stoppedBefore limit instant a =
      (r.stoppedBefore limit instant a).preceded xs := by
  by_cases hr : r.endsBefore limit = true
  · rw [stoppedBefore_of_endsBefore hr, stoppedBefore_of_endsBefore (r := r.preceded xs) hr]
  · rw [stoppedBefore_of_not hr, stoppedBefore_of_not (r := r.preceded xs) hr]
    exact ext_of (by simp only [preceded, before_append, h]) rfl

theorem andThenAt_of_ending {r : Run ε α} {next : Nat → α → Run ε β} {t : Nat} {a : α}
    (h : r.ending = some (t, a)) :
    r.andThenAt next = ((next t a).later t).preceded r.trace := by
  simp only [andThenAt, preceded, h]

theorem andThenAt_of_none {r : Run ε α} {next : Nat → α → Run ε β} (h : r.ending = none) :
    r.andThenAt next = ⟨r.trace, none⟩ := by
  simp only [andThenAt, h]

theorem effects_andThen {r : Run ε α} {next : α → Run ε β} {t : Nat} {a : α}
    (h : r.ending = some (t, a)) : (r.andThen next).effects = r.effects ++ (next a).effects := by
  rw [andThen, andThenAt_of_ending h, effects, preceded, List.map_append, later, shift,
    List.map_map]
  rfl

theorem endsBefore_andThen {r : Run ε α} {next : α → Run ε β}
    (h : ∀ a, ∃ b, (next a).ending = some (0, b)) (limit : Nat) :
    (r.andThen next).endsBefore limit = r.endsBefore limit := by
  cases hr : r.ending with
  | none => simp [endsBefore, ending_andThen, hr]
  | some x =>
    obtain ⟨b, hb⟩ := h x.2
    simp [endsBefore, ending_andThen, hr, hb]

theorem endsBefore_andThenAt_of_not {r : Run ε α} {limit : Nat}
    (h : ¬ r.endsBefore limit = true) (next : Nat → α → Run ε β) :
    ¬ (r.andThenAt next).endsBefore limit = true := by
  cases hr : r.ending with
  | none => simp [andThenAt_of_none hr, endsBefore]
  | some x =>
    have ht : limit ≤ x.1 := by simpa [endsBefore, hr] using h
    rw [andThenAt_of_ending hr]
    exact endsBefore_later_of_le (next x.1 x.2) ht

theorem before_andThenAt_of_not {r : Run ε α} {limit : Nat} (h : ¬ r.endsBefore limit = true)
    (next : Nat → α → Run ε β) :
    before limit (r.andThenAt next).trace = before limit r.trace := by
  cases hr : r.ending with
  | none => rw [andThenAt_of_none hr]
  | some x =>
    have ht : limit ≤ x.1 := by simpa [endsBefore, hr] using h
    have hlate : before limit ((next x.1 x.2).later x.1).trace = [] :=
      before_eq_nil fun y hy => Nat.le_trans ht (le_of_mem_shift hy)
    simp only [andThenAt_of_ending hr, preceded, before_append, hlate, List.append_nil]

/-- To give up both parts of some work at an instant is to give up the whole at it, provided that
the second part stops at once when the first was given up. -/
theorem stoppedBefore_andThenAt {r : Run ε α} {next next' : Nat → α → Run ε β}
    {limit instant : Nat} {a : α} {b : β} (hi : limit ≤ instant + 1) (hr : r.Orderly)
    (hgiven : ∀ t, next t a = done b)
    (hnext : ∀ t x, r.ending = some (t, x) → t < limit →
      next t x = (next' t x).stoppedBefore (limit - t) (instant - t) b) :
    (r.stoppedBefore limit instant a).andThenAt next =
      (r.andThenAt next').stoppedBefore limit instant b := by
  by_cases hb : r.endsBefore limit = true
  · obtain ⟨t, x, hx, ht⟩ := endsBefore_iff.1 hb
    rw [stoppedBefore_of_endsBefore hb, andThenAt_of_ending hx, andThenAt_of_ending hx,
      hnext t x hx ht, later_stoppedBefore _ _ ht (by omega),
      stoppedBefore_preceded (hr.before_trace hb)]
  · rw [stoppedBefore_of_not hb, andThenAt_of_ending rfl, hgiven,
      stoppedBefore_of_not (endsBefore_andThenAt_of_not hb next')]
    refine ext_of ?_ (by simp [preceded, later, done])
    rw [before_andThenAt_of_not hb]
    simp [preceded, later, shift, done]

theorem trace_stoppedBefore {r : Run ε α} (h : r.Orderly) (limit instant : Nat) (a : α) :
    (r.stoppedBefore limit instant a).trace = before limit r.trace := by
  by_cases hb : r.endsBefore limit = true
  · rw [stoppedBefore_of_endsBefore hb, h.before_trace hb]
  · rw [stoppedBefore_of_not hb]

theorem endsBefore_beside (r : Run ε α) (s : Run ε β) (limit : Nat) :
    (r.beside s).endsBefore limit = (r.endsBefore limit && s.endsBefore limit) := by
  cases hr : r.ending with
  | none => simp [endsBefore, beside, bothEndings, hr]
  | some x =>
    cases hs : s.ending with
    | none => simp [endsBefore, beside, bothEndings, hr, hs]
    | some y =>
      simp only [endsBefore, beside, bothEndings, hr, hs, Nat.max_lt, Bool.decide_and]

theorem trace_beside_stopped {r : Run ε α} {s : Run ε β} (hr : r.Orderly) (hs : s.Orderly)
    (limit instant : Nat) (a : α) (b : β) :
    ((r.stoppedBefore limit instant a).beside (s.stoppedBefore limit instant b)).trace =
      before limit (r.beside s).trace := by
  simp only [beside, trace_stoppedBefore hr, trace_stoppedBefore hs,
    before_mergeTraces limit hr.inOrder hs.inOrder]

theorem ending_beside_stopped {r : Run ε α} {s : Run ε β} {limit instant : Nat}
    (hi : limit ≤ instant + 1) (h : ¬ (r.beside s).endsBefore limit = true) (a : α) (b : β) :
    ∃ c : α × β, (c.1 = a ∨ c.2 = b) ∧
      ((r.stoppedBefore limit instant a).beside (s.stoppedBefore limit instant b)).ending =
        some (instant, c) := by
  -- a piece that ended in time ended at `instant` at the latest
  by_cases hr : r.endsBefore limit = true
  · have hs : ¬ s.endsBefore limit = true := by
      intro hs
      rw [endsBefore_beside, hr, hs] at h
      exact h rfl
    obtain ⟨t, x, hx, ht⟩ := endsBefore_iff.1 hr
    have hlast : max t instant = instant := by omega
    refine ⟨(x, b), .inr rfl, ?_⟩
    rw [stoppedBefore_of_endsBefore hr, stoppedBefore_of_not hs, ending_beside hx rfl, hlast]
  · by_cases hs : s.endsBefore limit = true
    · obtain ⟨t, y, hy, ht⟩ := endsBefore_iff.1 hs
      have hlast : max instant t = instant := by omega
      refine ⟨(a, y), .inl rfl, ?_⟩
      rw [stoppedBefore_of_not hr, stoppedBefore_of_endsBefore hs, ending_beside rfl hy, hlast]
    · refine ⟨(a, b), .inl rfl, ?_⟩
      rw [stoppedBefore_of_not hr, stoppedBefore_of_not hs, ending_beside rfl rfl, Nat.max_self]

/-- To give up two pieces of work at an instant is to give up both together at it: the value says
which of them was given up. -/
theorem stoppedBefore_beside {r : Run ε α} {s : Run ε β} {limit instant : Nat} {a : α} {b : β}
    (hi : limit ≤ instant + 1) (hr : r.Orderly) (hs : s.Orderly) :
    ∃ c : α × β, (c.1 = a ∨ c.2 = b) ∧
      (r.stoppedBefore limit instant a).beside (s.stoppedBefore limit instant b) =
        (r.beside s).stoppedBefore limit instant c := by
  by_cases h : (r.beside s).endsBefore limit = true
  · have hparts := h
    rw [endsBefore_beside, Bool.and_eq_true] at hparts
    refine ⟨(a, b), .inl rfl, ?_⟩
    rw [stoppedBefore_of_endsBefore hparts.1, stoppedBefore_of_endsBefore hparts.2,
      stoppedBefore_of_endsBefore h]
  · obtain ⟨c, hc, hend⟩ := ending_beside_stopped hi h a b
    refine ⟨c, hc, ?_⟩
    rw [stoppedBefore_of_not h]
    exact ext_of (trace_beside_stopped hr hs limit instant a b) hend

/-! ## Kinds of effects -/

/-- Every effect is of one kind. -/
def Only (p : ε → Prop) (r : Run ε α) : Prop := ∀ x ∈ r.trace, p x.2

namespace Only

variable {p : ε → Prop}

theorem done (a : α) : (done a : Run ε α).Only p := fun _ hx => absurd hx List.not_mem_nil

theorem emitAll {effects : List ε} (h : ∀ e ∈ effects, p e) : (Run.emitAll effects).Only p := by
  intro x hx
  obtain ⟨e, he, rfl⟩ := List.mem_map.1 hx
  exact h e he

theorem emit {effect : ε} (h : p effect) : (Run.emit effect).Only p := by
  intro x hx
  rw [List.mem_singleton.1 hx]
  exact h

theorem await (reply : Reply α) : (Run.await reply : Run ε α).Only p := by
  cases reply <;> exact fun _ hx => absurd hx List.not_mem_nil

theorem map {r : Run ε α} (h : r.Only p) (f : α → β) : (r.map f).Only p := h

theorem andThenAt {r : Run ε α} {next : Nat → α → Run ε β} (h : r.Only p)
    (hn : ∀ t a, r.ending = some (t, a) → (next t a).Only p) : (r.andThenAt next).Only p := by
  intro x hx
  cases hr : r.ending with
  | none =>
    rw [andThenAt_of_none hr] at hx
    exact h x hx
  | some y =>
    rw [andThenAt_of_ending hr] at hx
    rcases List.mem_append.1 hx with hx | hx
    · exact h x hx
    · obtain ⟨z, hz, rfl⟩ := List.mem_map.1 hx
      exact hn y.1 y.2 hr z hz

theorem andThen {r : Run ε α} {next : α → Run ε β} (h : r.Only p)
    (hn : ∀ t a, r.ending = some (t, a) → (next a).Only p) : (r.andThen next).Only p :=
  h.andThenAt hn

theorem beside {r : Run ε α} {s : Run ε β} (hr : r.Only p) (hs : s.Only p) :
    (r.beside s).Only p := fun x hx => (mem_mergeTraces.1 hx).elim (hr x) (hs x)

theorem all {rs : List (Run ε α)} (h : ∀ r ∈ rs, r.Only p) : (Run.all rs).Only p := by
  induction rs with
  | nil => exact done []
  | cons r rs ih =>
    have hrs := ih fun s hs => h s (List.mem_cons_of_mem r hs)
    exact ((h r List.mem_cons_self).beside hrs).map _

theorem within {r : Run ε α} (h : r.Only p) (limit : Nat) (late : α) :
    (r.within limit late).Only p := by
  unfold Run.within
  split
  · exact h
  · exact fun x hx => h x (List.mem_filter.1 hx).1

theorem effects {r : Run ε α} (h : r.Only p) : ∀ e ∈ r.effects, p e := by
  intro e he
  obtain ⟨x, hx, rfl⟩ := List.mem_map.1 he
  exact h x hx

end Only

end Run

end ScopedAccess
