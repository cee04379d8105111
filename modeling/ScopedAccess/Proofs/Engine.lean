import ScopedAccess.Engine
import ScopedAccess.Proofs.RelationshipSide

/-!
# ScopedAccess.Proofs.Engine

What a call comes to and when, and that giving up each of its parts at an interruption is giving up
the whole call.

* `attributeResult` and `relationshipResult` are what the two sides come to on their own.
* `verdict` is the table of modes; `ending_resolve` says that an uninterrupted call follows it.
* `resolve_stopped`: the interruptions of the parts add nothing to the interruption of the whole.
-/

namespace ScopedAccess

/-- Work stops at the instant at which it returns, before or after what happens at that instant. -/
structure Interruption.Proper (i : Interruption) : Prop where
  lower : i.instant ≤ i.limit
  upper : i.limit ≤ i.instant + 1

theorem Interruption.Proper.after {i : Interruption} (h : i.Proper) (elapsed : Nat) :
    (i.after elapsed).Proper := by
  have := h.lower
  have := h.upper
  exact ⟨by simp only [Interruption.after]; omega, by simp only [Interruption.after]; omega⟩

namespace CallContext

/-- The caller cancels the call at an instant, or its deadline passes then. -/
def InterruptedAt (c : CallContext) (n : Nat) : Prop := c.cancelAfter = some n ∨ c.deadline = some n

theorem proper_of_byCaller {c : CallContext} {i : Interruption} (h : c.byCaller = some i) :
    i.Proper ∧ c.cancelAfter = some i.instant := by
  obtain ⟨n, hn, rfl⟩ := Option.map_eq_some_iff.1 h
  refine ⟨⟨?_, ?_⟩, hn⟩
  · show n ≤ if n = 0 then 0 else n + 1
    split <;> omega
  · show (if n = 0 then 0 else n + 1) ≤ n + 1
    split <;> omega

theorem proper_of_byDeadline {c : CallContext} {i : Interruption} (h : c.byDeadline = some i) :
    i.Proper ∧ c.deadline = some i.instant := by
  obtain ⟨n, hn, rfl⟩ := Option.map_eq_some_iff.1 h
  exact ⟨⟨Nat.le_refl n, Nat.le_succ n⟩, hn⟩

theorem byCaller_or_byDeadline {c : CallContext} {i : Interruption}
    (h : c.interruption? = some i) : c.byCaller = some i ∨ c.byDeadline = some i := by
  unfold interruption? at h
  split at h
  · rename_i x y hx hy
    split at h
    · exact .inl (hx.trans h)
    · exact .inr (hy.trans h)
  · rename_i x hx _
    exact .inl (hx.trans h)
  · exact .inr h

theorem proper_of_interruption? {c : CallContext} {i : Interruption}
    (h : c.interruption? = some i) : i.Proper :=
  (byCaller_or_byDeadline h).elim (fun h => (proper_of_byCaller h).1)
    fun h => (proper_of_byDeadline h).1

theorem interruptedAt_of_interruption? {c : CallContext} {i : Interruption}
    (h : c.interruption? = some i) : c.InterruptedAt i.instant :=
  (byCaller_or_byDeadline h).imp (fun h => (proper_of_byCaller h).2)
    fun h => (proper_of_byDeadline h).2

theorem limit_of_byDeadline {c : CallContext} {i : Interruption} (h : c.byDeadline = some i) :
    i.limit = i.instant := by
  obtain ⟨n, _, rfl⟩ := Option.map_eq_some_iff.1 h
  rfl

theorem interruption?_le {c : CallContext} {x : Interruption}
    (h : c.byCaller = some x ∨ c.byDeadline = some x) :
    ∃ i, c.interruption? = some i ∧ i.limit ≤ x.limit ∧ i.instant ≤ x.instant := by
  unfold interruption?
  cases hc : c.byCaller with
  | none =>
    have hd : c.byDeadline = some x := h.resolve_left (by simp [hc])
    exact ⟨x, by rw [hd], Nat.le_refl _, Nat.le_refl _⟩
  | some y =>
    cases hd : c.byDeadline with
    | none =>
      have hy : y = x := by simpa [hc, hd] using h
      subst hy
      exact ⟨y, rfl, Nat.le_refl _, Nat.le_refl _⟩
    | some z =>
      have hyp := (proper_of_byCaller hc).1
      have hz := limit_of_byDeadline hd
      have := hyp.lower
      have := hyp.upper
      have hx : y = x ∨ z = x := by simpa [hc, hd] using h
      by_cases hle : y.limit ≤ z.limit
      · refine ⟨y, if_pos hle, ?_⟩
        rcases hx with rfl | rfl <;> constructor <;> omega
      · refine ⟨z, if_neg hle, ?_⟩
        rcases hx with rfl | rfl <;> constructor <;> omega

theorem interruption?_of_interruptedAt {c : CallContext} {n : Nat} (h : c.InterruptedAt n) :
    ∃ i, c.interruption? = some i ∧ i.limit ≤ n + 1 ∧ i.instant ≤ n := by
  obtain ⟨x, hx, hlimit, hinstant⟩ : ∃ x, (c.byCaller = some x ∨ c.byDeadline = some x) ∧
      x.limit ≤ n + 1 ∧ x.instant = n := by
    rcases h with h | h
    · have hx : c.byCaller = some ⟨if n = 0 then 0 else n + 1, n⟩ := by rw [byCaller, h]; rfl
      exact ⟨_, .inl hx, (proper_of_byCaller hx).1.upper, rfl⟩
    · have hx : c.byDeadline = some ⟨n, n⟩ := by rw [byDeadline, h]; rfl
      exact ⟨_, .inr hx, Nat.le_succ n, rfl⟩
  obtain ⟨i, hi, hil, hin⟩ := interruption?_le hx
  exact ⟨i, hi, Nat.le_trans hil hlimit, hinstant ▸ hin⟩

theorem interruption?_of_isCanceled {c : CallContext} (h : c.isCanceled = true) :
    ∃ i, c.interruption? = some i ∧ i.limit = 0 ∧ i.instant = 0 := by
  have hx : c.byCaller = some ⟨0, 0⟩ ∨ c.byDeadline = some ⟨0, 0⟩ := by
    simp only [isCanceled, isCanceledByCaller, Bool.or_eq_true, beq_iff_eq] at h
    rcases h with h | h
    · exact .inl (by rw [byCaller, h]; rfl)
    · exact .inr (by rw [byDeadline, h]; rfl)
  obtain ⟨i, hi, hlimit, hinstant⟩ := interruption?_le hx
  exact ⟨i, hi, Nat.le_zero.1 hlimit, Nat.le_zero.1 hinstant⟩

end CallContext

namespace Engine

/-- What the attribute side concludes from the answer of the directory. -/
def attributeAnswer (e : Engine) (request : Request) :
    Except DirectoryFault (List Permission) → Side
  | .ok permissions =>
    .ok (AttributeResolution.resolve permissions request.permission e.catalog).decision
  | .error fault => .error (.fetchFailed fault.message)

/-- What the attribute side comes to and when, if the directory answers. -/
def attributeResult (e : Engine) (world : World) (request : Request) : Option (Nat × Side) :=
  world.permissions.ending.map fun x => (x.1, e.attributeAnswer request x.2)

/-- What the relationship side comes to. -/
def relationshipResult (e : Engine) (world : World) (request : Request) : Side :=
  (e.relationships.conclusion world.relationships request.principal request.tenant
    e.catalog).map RelationshipResolution.decision

def relationshipInstant (e : Engine) (world : World) (request : Request) : Nat :=
  e.relationships.resolveInstant world.relationships request.principal e.catalog

/-- What a call comes to, given both sides. -/
def verdict (e : Engine) (mode : Mode) (attributeSide relationshipSide : Side) :
    Except AuthzError Resolved :=
  match mode.authoritative, relationshipSide with
  | .attribute, _ => attributeSide.map fun decision => ⟨decision, false⟩
  | .relationship, .ok decision => .ok ⟨decision, false⟩
  | .relationship, .error outage =>
    match e.fallback, attributeSide with
    | true, .ok decision => .ok ⟨decision, true⟩
    | _, _ => .error outage

/-- Whether a call waits for the attribute side. -/
def waitsForAttribute (e : Engine) (world : World) (request : Request) : Mode → Bool
  | .relationshipOnly =>
    match e.relationshipResult world request with
    | .ok _ => false
    | .error _ => e.fallback
  | _ => true

/-- When a call is over, given when the sides are over. -/
def lastInstant (attributeInstant relationshipInstant : Nat) : Mode → Nat
  | .attributeOnly => attributeInstant
  | .relationshipOnly => relationshipInstant + attributeInstant
  | _ => max attributeInstant relationshipInstant

/-! ## Sides -/

theorem ending_concludeAttribute (e : Engine) (request : Request)
    (fetched : Except AuthzError (List Permission)) :
    (e.concludeAttribute request fetched).ending = some (0, fetched.map fun permissions =>
      (AttributeResolution.resolve permissions request.permission e.catalog).decision) := by
  cases fetched <;> rfl

theorem ending_concludeRelationship (resolved : Except AuthzError RelationshipResolution) :
    (concludeRelationship resolved).ending =
      some (0, resolved.map RelationshipResolution.decision) := by
  cases resolved <;> rfl

theorem ending_fetchPermissions (world : World) (request : Request) :
    (fetchPermissions world request).ending =
      world.permissions.ending.map fun x => (x.1, fetchResult x.2) := by
  rw [fetchPermissions, Run.ending_andThen]
  simp [Run.emit, Run.ending_map, Run.ending_await, Function.comp_def]

theorem ending_attributeSide (e : Engine) (world : World) (request : Request) :
    (e.attributeSide world none request).ending = e.attributeResult world request := by
  rw [attributeSide, Run.guarded, Run.ending_andThen, ending_fetchPermissions, attributeResult]
  cases world.permissions.ending with
  | none => rfl
  | some x =>
    obtain ⟨t, answer⟩ := x
    simp only [Option.map_some, Option.bind_some, ending_concludeAttribute]
    cases answer <;> rfl

theorem ending_relationshipSide (e : Engine) (world : World) (request : Request) :
    (e.relationshipSide world none request).ending =
      some (e.relationshipInstant world request, e.relationshipResult world request) := by
  rw [relationshipSide, Run.guarded, Run.ending_andThen, RelationshipSide.resolve_ending]
  simp only [Option.bind_some, ending_concludeRelationship, Option.map_some]
  rfl

theorem orderly_fetchPermissions (world : World) (request : Request) :
    (fetchPermissions world request).Orderly :=
  .andThen (.emit _) fun _ => .map (.await _) _

theorem orderly_attributeSide (e : Engine) (world : World) (request : Request) :
    (e.attributeSide world none request).Orderly := by
  refine (orderly_fetchPermissions world request).andThen fun fetched => ?_
  cases fetched with
  | error error => exact .done _
  | ok permissions =>
    rw [concludeAttribute]
    exact .map (.emitAll _) _

theorem orderly_relationshipSide (e : Engine) (world : World) (request : Request) :
    (e.relationshipSide world none request).Orderly := by
  refine (e.relationships.orderly_resolve _ _ _ _).andThen fun resolved => ?_
  cases resolved with
  | error error => exact .done _
  | ok resolution =>
    rw [concludeRelationship]
    exact .map (.emitAll _) _

theorem only_concludeAttribute (p : Effect → Prop)
    (hoffer : ∀ details, p (.offer (.error .malformedPermissionData details)))
    (hlog : ∀ entry, p (.log entry)) (e : Engine) (request : Request)
    (fetched : Except AuthzError (List Permission)) :
    (e.concludeAttribute request fetched).Only p := by
  cases fetched with
  | error error => exact .done _
  | ok permissions =>
    rw [concludeAttribute]
    refine Run.Only.map (.emitAll fun x hx => ?_) _
    rcases List.mem_append.1 hx with hx | hx
    · split at hx
      · cases hx
      · rw [List.mem_singleton.1 hx]
        exact hoffer _
    · split at hx
      · cases hx
      · rw [List.mem_singleton.1 hx]
        exact hlog _

theorem only_attributeSide (p : Effect → Prop) (e : Engine) (world : World) (request : Request)
    (hfetch : p (.fetch request.subject request.tenant))
    (hoffer : ∀ details, p (.offer (.error .malformedPermissionData details)))
    (hlog : ∀ entry, p (.log entry)) : (e.attributeSide world none request).Only p := by
  refine Run.Only.andThen ?_ fun _ fetched _ =>
    only_concludeAttribute p hoffer hlog e request fetched
  unfold fetchPermissions Run.guarded
  exact .andThen (.emit hfetch) fun _ _ _ => .map (.await _) _

theorem only_concludeRelationship (p : Effect → Prop)
    (hoffer : ∀ details, p (.offer (.error .relationshipCheckFailed details)))
    (resolved : Except AuthzError RelationshipResolution) :
    (concludeRelationship resolved).Only p := by
  cases resolved with
  | error error => exact .done _
  | ok resolution =>
    rw [concludeRelationship]
    refine Run.Only.map (.emitAll fun x hx => ?_) _
    obtain ⟨f, _, rfl⟩ := List.mem_map.1 hx
    exact hoffer _

theorem only_relationshipSide (p : Effect → Prop) (e : Engine) (world : World) (request : Request)
    (hlookup : p (.lookup request.tenant))
    (hfound : ∀ workspace, p (.found request.tenant workspace))
    (hcheck : ∀ query, p (.check query)) (hlog : ∀ entry, p (.log entry))
    (hoffer : ∀ details, p (.offer (.error .relationshipCheckFailed details))) :
    (e.relationshipSide world none request).Only p := by
  refine Run.Only.andThen ?_ fun _ resolved _ => only_concludeRelationship p hoffer resolved
  exact RelationshipSide.only_resolve p _ _ _ _ hlookup hfound hcheck hlog

theorem only_runFallBack (p : Effect → Prop) (hlog : ∀ entry, p (.log entry))
    (outage : AuthzError) (side : Side) : (runFallBack outage side).Only p := by
  refine Run.Only.map (.emitAll fun x hx => ?_) _
  obtain ⟨entry, _, rfl⟩ := List.mem_map.1 hx
  exact hlog entry

theorem only_concludeBoth (p : Effect → Prop) (hlog : ∀ entry, p (.log entry))
    (hcomparison : ∀ record, p (.offer (.comparison record))) (e : Engine) (request : Request)
    (authoritative : Source) (sides : Side × Side) :
    (e.concludeBoth request authoritative sides).Only p := by
  obtain ⟨attributeSide, relationshipSide⟩ := sides
  rw [concludeBoth]
  split
  · exact .done _
  · refine .andThen (.emit (hcomparison _)) fun _ _ _ => ?_
    split
    · exact .done _
    · split
      · exact only_runFallBack p hlog _ _
      · exact .done _

theorem only_resolveRelationship {p : Effect → Prop} {e : Engine} {world : World}
    {request : Request} (hattribute : (e.attributeSide world none request).Only p)
    (hrelationship : (e.relationshipSide world none request).Only p)
    (hlog : ∀ entry, p (.log entry)) : (e.resolveRelationship world none request).Only p := by
  refine hrelationship.andThenAt fun _ side _ => ?_
  cases side with
  | ok decision => exact .done _
  | error error =>
    by_cases hf : e.mayFallBack error = true
    · simp only [hf, if_true]
      exact hattribute.andThen fun _ side _ => only_runFallBack p hlog error side
    · simp only [hf]
      exact .done _

/-- Beside what its sides do, a call only logs and compares. -/
theorem only_resolve {p : Effect → Prop} {e : Engine} {world : World} {request : Request}
    (hattribute : (e.attributeSide world none request).Only p)
    (hrelationship : (e.relationshipSide world none request).Only p)
    (hlog : ∀ entry, p (.log entry)) (hcomparison : ∀ record, p (.offer (.comparison record)))
    (mode : Mode) : (e.resolve world none request mode).Only p := by
  have hboth (authoritative : Source) : (e.resolveBoth world none request authoritative).Only p :=
    (hattribute.beside hrelationship).andThen fun _ sides _ =>
      only_concludeBoth p hlog hcomparison e request authoritative sides
  cases mode with
  | attributeOnly => exact hattribute
  | relationshipOnly => exact only_resolveRelationship hattribute hrelationship hlog
  | dualValidate => exact hboth _
  | dualEnforceNew => exact hboth _

theorem fetchFailed_of_attributeResult {e : Engine} {world : World} {request : Request} {t : Nat}
    {error : AuthzError} (h : e.attributeResult world request = some (t, .error error)) :
    ∃ reason, error = .fetchFailed reason := by
  obtain ⟨⟨u, answer⟩, _, hanswer⟩ := Option.map_eq_some_iff.1 h
  cases answer with
  | error fault =>
    cases hanswer
    exact ⟨fault.message, rfl⟩
  | ok permissions => cases hanswer

theorem conclusion_of_relationshipResult {e : Engine} {world : World} {request : Request}
    {decision : Decision}
    (h : e.relationshipResult world request = .ok decision) :
    ∃ r, e.relationships.conclusion world.relationships request.principal request.tenant
        e.catalog = .ok r ∧ r.decision = decision := by
  unfold relationshipResult at h
  cases hr : e.relationships.conclusion world.relationships request.principal request.tenant
      e.catalog with
  | error error =>
    rw [hr] at h
    cases h
  | ok r =>
    rw [hr] at h
    cases h
    exact ⟨r, rfl, rfl⟩

theorem isOutage_of_relationshipResult {e : Engine} {world : World} {request : Request}
    {error : AuthzError} (h : e.relationshipResult world request = .error error) :
    error.isOutage = true := by
  unfold relationshipResult RelationshipSide.conclusion at h
  split at h
  · cases h; rfl
  · unfold RelationshipResolution.ofAnswers at h
    split at h
    · cases h
    · split at h
      · cases h; rfl
      · cases h

/-! ## Interruptions of parts -/

theorem stoppedBefore_of_ending_zero {r : Run ε α} {a : α} (h : r.ending = some (0, a))
    {limit : Nat} (hl : 0 < limit) (instant : Nat) (b : α) :
    r.stoppedBefore limit instant b = r :=
  Run.stoppedBefore_of_endsBefore (by rw [Run.endsBefore_of_ending h, decide_eq_true hl]) instant b

section Stopped

variable (e : Engine) (world : World) (request : Request) {i : Interruption}

theorem attributeSide_stopped (hi : i.Proper) :
    e.attributeSide world (some i) request =
      (e.attributeSide world none request).stoppedBefore i.limit i.instant (.error .canceled) := by
  refine Run.stoppedBefore_andThenAt hi.upper (orderly_fetchPermissions world request)
    (fun _ => rfl) fun t fetched _ ht => ?_
  exact (stoppedBefore_of_ending_zero (e.ending_concludeAttribute request fetched)
    (Nat.sub_pos_of_lt ht) _ _).symm

theorem relationshipSide_stopped (hi : i.Proper) :
    e.relationshipSide world (some i) request =
      (e.relationshipSide world none request).stoppedBefore i.limit i.instant
        (.error .canceled) := by
  refine Run.stoppedBefore_andThenAt hi.upper (e.relationships.orderly_resolve _ _ _ _)
    (fun _ => rfl) fun t resolved _ ht => ?_
  exact (stoppedBefore_of_ending_zero (ending_concludeRelationship resolved)
    (Nat.sub_pos_of_lt ht) _ _).symm

theorem ending_runFallBack (outage : AuthzError) (side : Side) :
    (runFallBack outage side).ending = some (0, fallBack outage side) := rfl

theorem resolveAttribute_stopped (hi : i.Proper) :
    e.resolveAttribute world (some i) request =
      (e.resolveAttribute world none request).stoppedBefore i.limit i.instant
        (.error .canceled) := by
  unfold resolveAttribute
  rw [e.attributeSide_stopped world request hi, Run.map_stoppedBefore]

theorem resolveRelationship_stopped (hi : i.Proper) :
    e.resolveRelationship world (some i) request =
      (e.resolveRelationship world none request).stoppedBefore i.limit i.instant
        (.error .canceled) := by
  unfold resolveRelationship
  rw [e.relationshipSide_stopped world request hi]
  refine Run.stoppedBefore_andThenAt hi.upper (e.orderly_relationshipSide world request)
    (fun _ => ?_) fun t side _ ht => ?_
  · simp [mayFallBack, AuthzError.isOutage]
  · have hpos : 0 < i.limit - t := Nat.sub_pos_of_lt ht
    cases side with
    | ok decision => exact (stoppedBefore_of_ending_zero rfl hpos _ _).symm
    | error error =>
      by_cases hf : e.mayFallBack error = true
      · -- the fetch that stands in has what is left of the interruption
        simp only [hf, if_true, Option.map_some, Option.map_none]
        rw [e.attributeSide_stopped world request (hi.after t)]
        refine Run.stoppedBefore_andThenAt (hi.after t).upper
          (e.orderly_attributeSide world request) (fun _ => rfl) fun u side _ hu => ?_
        exact (stoppedBefore_of_ending_zero (ending_runFallBack error side)
          (Nat.sub_pos_of_lt hu) _ _).symm
      · simp only [hf]
        exact (stoppedBefore_of_ending_zero rfl hpos _ _).symm

theorem ending_concludeBoth_zero (authoritative : Source) (sides : Side × Side) :
    ∃ v, (e.concludeBoth request authoritative sides).ending = some (0, v) := by
  obtain ⟨attributeSide, relationshipSide⟩ := sides
  by_cases hc : (Side.isCanceled attributeSide || Side.isCanceled relationshipSide) = true
  · exact ⟨.error .canceled, by rw [concludeBoth, if_pos hc]; rfl⟩
  · rw [concludeBoth, if_neg hc, Run.ending_andThen]
    cases enforced attributeSide relationshipSide authoritative with
    | ok decision => exact ⟨_, rfl⟩
    | error error =>
      by_cases hf : authoritative = .relationship ∧ e.mayFallBack error = true
      · exact ⟨fallBack error attributeSide, by simp [hf, Run.emit, ending_runFallBack]⟩
      · exact ⟨.error error, by simp [hf, Run.emit, Run.done]⟩

theorem concludeBoth_of_canceled (authoritative : Source) {sides : Side × Side}
    (h : sides.1 = .error .canceled ∨ sides.2 = .error .canceled) :
    e.concludeBoth request authoritative sides = .done (.error .canceled) := by
  obtain ⟨attributeSide, relationshipSide⟩ := sides
  rcases h with rfl | rfl <;> simp [concludeBoth, Side.isCanceled]

theorem resolveBoth_stopped (hi : i.Proper) (authoritative : Source) :
    e.resolveBoth world (some i) request authoritative =
      (e.resolveBoth world none request authoritative).stoppedBefore i.limit i.instant
        (.error .canceled) := by
  unfold resolveBoth
  obtain ⟨sides, hsides, hbeside⟩ := Run.stoppedBefore_beside (a := .error .canceled)
    (b := .error .canceled) hi.upper (e.orderly_attributeSide world request)
    (e.orderly_relationshipSide world request)
  rw [e.attributeSide_stopped world request hi, e.relationshipSide_stopped world request hi,
    hbeside]
  refine Run.stoppedBefore_andThenAt hi.upper
    ((e.orderly_attributeSide world request).beside (e.orderly_relationshipSide world request))
    (fun _ => e.concludeBoth_of_canceled request authoritative hsides) fun t sides _ ht => ?_
  obtain ⟨v, hv⟩ := e.ending_concludeBoth_zero request authoritative sides
  exact (stoppedBefore_of_ending_zero hv (Nat.sub_pos_of_lt ht) _ _).symm

/-- To give up each part of a call at an interruption is to give up the whole call at it. -/
theorem resolve_stopped (hi : i.Proper) (mode : Mode) :
    e.resolve world (some i) request mode =
      (e.resolve world none request mode).stoppedBefore i.limit i.instant (.error .canceled) := by
  cases mode with
  | attributeOnly => exact e.resolveAttribute_stopped world request hi
  | relationshipOnly => exact e.resolveRelationship_stopped world request hi
  | dualValidate => exact e.resolveBoth_stopped world request hi _
  | dualEnforceNew => exact e.resolveBoth_stopped world request hi _

end Stopped

/-! ## Whole calls -/

theorem verdict_attributeOnly (e : Engine) (attributeSide relationshipSide : Side) :
    e.verdict .attributeOnly attributeSide relationshipSide =
      attributeSide.map fun decision => ⟨decision, false⟩ := by
  simp [verdict, Mode.authoritative]

theorem ending_resolveAttribute (e : Engine) (world : World) (request : Request) :
    (e.resolveAttribute world none request).ending =
      (e.attributeResult world request).map fun x =>
        (x.1, e.verdict .attributeOnly x.2 (e.relationshipResult world request)) := by
  rw [resolveAttribute, Run.ending_map, ending_attributeSide]
  congr 1
  funext x
  rw [verdict_attributeOnly]
  cases x.2 <;> rfl

theorem fallBack_eq_verdict {e : Engine} (mode : Mode) (hm : mode.authoritative = .relationship)
    (hf : e.fallback = true) {attributeSide : Side} (ha : Side.isCanceled attributeSide = false)
    (outage : AuthzError) :
    fallBack outage attributeSide = e.verdict mode attributeSide (.error outage) := by
  unfold verdict
  rw [hm, hf]
  cases attributeSide with
  | ok decision => rfl
  | error error => cases error <;> first | rfl | cases ha

theorem isCanceled_of_attributeResult {e : Engine} {world : World} {request : Request}
    {x : Nat × Side} (h : e.attributeResult world request = some x) :
    Side.isCanceled x.2 = false := by
  obtain ⟨t, side⟩ := x
  cases side with
  | ok decision => rfl
  | error error =>
    obtain ⟨reason, rfl⟩ := fetchFailed_of_attributeResult h
    rfl

theorem isCanceled_of_relationshipResult (e : Engine) (world : World) (request : Request) :
    Side.isCanceled (e.relationshipResult world request) = false := by
  cases h : e.relationshipResult world request with
  | ok decision => rfl
  | error error =>
    have hout := isOutage_of_relationshipResult h
    cases error <;> first | rfl | cases hout

theorem ending_resolveRelationship (e : Engine) (world : World) (request : Request) :
    (e.resolveRelationship world none request).ending =
      if e.waitsForAttribute world request .relationshipOnly then
        (e.attributeResult world request).map fun x =>
          (e.relationshipInstant world request + x.1,
            e.verdict .relationshipOnly x.2 (e.relationshipResult world request))
      else
        some (e.relationshipInstant world request,
          (e.relationshipResult world request).map fun decision => ⟨decision, false⟩) := by
  rw [resolveRelationship, Run.ending_andThenAt, ending_relationshipSide, waitsForAttribute]
  cases hr : e.relationshipResult world request with
  | ok decision => rfl
  | error outage =>
    have hout := isOutage_of_relationshipResult hr
    cases hf : e.fallback with
    | false => simp [mayFallBack, hf, Run.done, Except.map]
    | true =>
      simp only [Option.bind_some, mayFallBack, hf, hout, Bool.and_self, if_true, Option.map_none,
        Run.ending_andThen, ending_attributeSide]
      cases ha : e.attributeResult world request with
      | none => rfl
      | some x =>
        simp only [Option.bind_some, ending_runFallBack, Option.map_some, Nat.add_zero,
          fallBack_eq_verdict .relationshipOnly rfl hf (isCanceled_of_attributeResult ha)]

theorem ending_concludeBoth (e : Engine) (request : Request) (mode : Mode)
    {attributeSide relationshipSide : Side} (ha : Side.isCanceled attributeSide = false)
    (hr : Side.isCanceled relationshipSide = false)
    (hout : ∀ error, relationshipSide = .error error → error.isOutage = true) :
    (e.concludeBoth request mode.authoritative (attributeSide, relationshipSide)).ending =
      some (0, e.verdict mode attributeSide relationshipSide) := by
  have hc : ¬ (Side.isCanceled attributeSide || Side.isCanceled relationshipSide) = true := by
    rw [ha, hr]
    exact Bool.false_ne_true
  rw [concludeBoth, if_neg hc, Run.ending_andThen]
  rcases hm : mode.authoritative with _ | _
  · cases attributeSide <;> simp [enforced, verdict, hm, Run.emit, Run.done, Except.map]
  · cases relationshipSide with
    | ok decision => simp [enforced, verdict, hm, Run.emit, Run.done]
    | error outage =>
      have hmay : e.mayFallBack outage = e.fallback := by
        rw [mayFallBack, hout outage rfl, Bool.and_true]
      cases hf : e.fallback with
      | false => simp [enforced, verdict, hm, hmay, hf, Run.emit, Run.done]
      | true =>
        simp [enforced, hmay, hf, Run.emit, ending_runFallBack,
          fallBack_eq_verdict mode hm hf ha]

theorem ending_resolveBoth (e : Engine) (world : World) (request : Request) (mode : Mode) :
    (e.resolveBoth world none request mode.authoritative).ending =
      (e.attributeResult world request).map fun x =>
        (max x.1 (e.relationshipInstant world request),
          e.verdict mode x.2 (e.relationshipResult world request)) := by
  rw [resolveBoth, Run.ending_andThen]
  cases ha : e.attributeResult world request with
  | none =>
    have hend : (e.attributeSide world none request).ending = none := by
      rw [ending_attributeSide, ha]
    simp [Run.beside, hend, Run.bothEndings]
  | some x =>
    have hend : (e.attributeSide world none request).ending = some (x.1, x.2) := by
      rw [ending_attributeSide, ha]
    rw [Run.ending_beside hend (e.ending_relationshipSide world request)]
    have hboth := e.ending_concludeBoth request mode
      (isCanceled_of_attributeResult ha) (e.isCanceled_of_relationshipResult world request)
      fun error => isOutage_of_relationshipResult
    simp [hboth]

/-- A call that waits for the attribute side ends with the table's verdict once both sides are
over, and never if the directory does not answer. Another call ends with the relationship side. -/
theorem ending_resolve (e : Engine) (world : World) (request : Request) (mode : Mode) :
    (e.resolve world none request mode).ending =
      if e.waitsForAttribute world request mode then
        (e.attributeResult world request).map fun x =>
          (lastInstant x.1 (e.relationshipInstant world request) mode,
            e.verdict mode x.2 (e.relationshipResult world request))
      else
        some (e.relationshipInstant world request,
          (e.relationshipResult world request).map fun decision => ⟨decision, false⟩) := by
  cases mode with
  | attributeOnly => exact e.ending_resolveAttribute world request
  | relationshipOnly => exact e.ending_resolveRelationship world request
  | dualValidate => exact e.ending_resolveBoth world request .dualValidate
  | dualEnforceNew => exact e.ending_resolveBoth world request .dualEnforceNew

/-! ## Authorization calls -/

/-- The result of a call as it is returned. -/
def returned (mode : Mode) (version : UInt64) (result : Except AuthzError Resolved) :
    Except AuthzError Outcome :=
  result.map fun r => ⟨r.decision, mode, r.fallbackApplied, version⟩

theorem ending_finish (operation : Operation) (mode : Mode) (version : UInt64)
    (result : Except AuthzError Resolved) :
    (finish operation mode version result).ending = some (0, returned mode version result) := by
  cases result <;> rfl

/-- What a call would do if nothing could interrupt it. -/
def undisturbed (e : Engine) (world : World) (policy : PolicySnapshot) (request : Request) :
    Run Effect (Except AuthzError Resolved) :=
  e.resolve world none request (policy.policy.select request.tenant)

section Calls

variable (e : Engine) (world : World) (policy : PolicySnapshot) (context : CallContext)
  (request : Request) (operation : Operation)

theorem guarded_resolve :
    (e.resolve world context.interruption? request (policy.policy.select request.tenant)).guarded
        context.interruption? (.error .canceled) =
      (e.undisturbed world policy request).guarded context.interruption? (.error .canceled) := by
  cases h : context.interruption? with
  | none => rfl
  | some i =>
    rw [e.resolve_stopped world request (CallContext.proper_of_interruption? h)]
    exact Run.stoppedBefore_stoppedBefore _ _ _ _

/-- A call is what it would do undisturbed, given up as a whole at the interruption. -/
theorem authorize_eq :
    e.authorize world policy context request operation =
      (Run.emit (.log (modeLog request (policy.policy.select request.tenant)))).andThen fun _ =>
        ((e.undisturbed world policy request).guarded context.interruption?
          (.error .canceled)).andThen
            (finish operation (policy.policy.select request.tenant) policy.version) := by
  rw [authorize, guarded_resolve]

theorem ending_authorize :
    (e.authorize world policy context request operation).ending =
      ((e.undisturbed world policy request).guarded context.interruption?
        (.error .canceled)).ending.map fun x =>
          (x.1, returned (policy.policy.select request.tenant) policy.version x.2) := by
  rw [authorize_eq, Run.ending_andThen]
  simp only [Run.emit, Option.bind_some, Run.ending_andThen]
  cases ((e.undisturbed world policy request).guarded context.interruption?
    (.error .canceled)).ending with
  | none => rfl
  | some x => simp [ending_finish]

variable {e world policy context request operation}

theorem endsBefore_of_not_canceled {i : Interruption} (hi : context.interruption? = some i)
    (h : (e.authorize world policy context request operation).value? ≠ some (.error .canceled)) :
    (e.undisturbed world policy request).endsBefore i.limit = true := by
  refine Classical.byContradiction fun hb => h ?_
  rw [Run.value?, ending_authorize, hi, Run.guarded, Run.stoppedBefore_of_not hb]
  rfl

/-- A call that is not canceled does all that it would do undisturbed. -/
theorem guarded_of_not_canceled
    (h : (e.authorize world policy context request operation).value? ≠ some (.error .canceled)) :
    (e.undisturbed world policy request).guarded context.interruption? (.error .canceled) =
      e.undisturbed world policy request := by
  cases hi : context.interruption? with
  | none => rfl
  | some i => exact Run.stoppedBefore_of_endsBefore (endsBefore_of_not_canceled hi h) _ _

theorem ending_authorize_of_not_canceled
    (h : (e.authorize world policy context request operation).value? ≠ some (.error .canceled)) :
    (e.authorize world policy context request operation).ending =
      (e.undisturbed world policy request).ending.map fun x =>
        (x.1, returned (policy.policy.select request.tenant) policy.version x.2) := by
  rw [ending_authorize, guarded_of_not_canceled h]

end Calls

end Engine

end ScopedAccess
