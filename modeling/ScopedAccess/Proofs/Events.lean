import ScopedAccess.Proofs.Queries

/-!
# ScopedAccess.Proofs.Events

What a call offers to the queue of events.

* `events_authorize`: a call that is not canceled offers what its sides and their comparison offer,
  and then its error, if it returns one.
* `failedChecks_resolve`, `unreadables_resolve`, `comparisons_resolveBoth`: the events of each kind.
* `Comparison.backs_verdict`: the verdict on two sides is what their record says.
* `call_recorded`: what can be told of a call from its events.
-/

namespace ScopedAccess

/-- The kinds that a call recovers from. -/
def ErrorKind.isRecovered : ErrorKind → Bool
  | malformedPermissionData => true
  | relationshipCheckFailed => true
  | _ => false

theorem ErrorKind.isRecovered_iff {kind : ErrorKind} :
    kind.isRecovered = true ↔
      kind = .malformedPermissionData ∨ kind = .relationshipCheckFailed := by
  cases kind <;> simp [isRecovered]

theorem AuthzError.isRecovered_kind (error : AuthzError) : error.kind.isRecovered = false := by
  cases error <;> rfl

namespace Event

def isComparison : Event → Bool
  | comparison _ => true
  | error _ _ => false

def reports (kind : ErrorKind) : Event → Bool
  | comparison _ => false
  | error own _ => own == kind

/-- A comparison, or an error that calls recover from. -/
def isIncidental : Event → Bool
  | comparison _ => true
  | error kind _ => kind.isRecovered

theorem isIncidental_of_isComparison {event : Event} (h : event.isComparison = true) :
    event.isIncidental = true := by
  cases event with
  | comparison record => rfl
  | error kind details => cases h

theorem isIncidental_of_reports {kind : ErrorKind} (hkind : kind.isRecovered = true)
    {event : Event} (h : event.reports kind = true) : event.isIncidental = true := by
  cases event with
  | comparison record => rfl
  | error own details =>
    rw [reports, beq_iff_eq] at h
    rw [isIncidental, h, hkind]

theorem not_reports_of_isIncidental {event : Event} (h : event.isIncidental = true)
    (error : AuthzError) : event.reports error.kind = false := by
  cases event with
  | comparison record => rfl
  | error kind details =>
    rw [reports, beq_eq_false_iff_ne]
    rintro rfl
    rw [isIncidental, error.isRecovered_kind] at h
    cases h

end Event

namespace Effect

def event? : Effect → Option Event
  | offer event => some event
  | _ => none

/-- Whether an event of some sort is offered. -/
def offers (q : Event → Bool) : Effect → Bool
  | offer event => q event
  | _ => false

end Effect

namespace Run

variable {α β : Type}

/-- The events offered, in order. -/
def events (r : Run Effect α) : List Event := r.effects.filterMap Effect.event?

theorem events_map (f : α → β) (r : Run Effect α) : (r.map f).events = r.events := rfl

theorem events_emitAll (effects : List Effect) :
    (emitAll effects).events = effects.filterMap Effect.event? := by
  rw [events, Run.effects, emitAll, List.map_map]
  exact congrArg _ (List.map_id effects)

theorem events_eq_nil {r : Run Effect α} (h : r.Only fun x => x.event? = none) : r.events = [] :=
  List.filterMap_eq_nil_iff.2 h.effects

theorem events_andThenAt {r : Run Effect α} {next : Nat → α → Run Effect β} {t : Nat} {a : α}
    (h : r.ending = some (t, a)) :
    (r.andThenAt next).events = r.events ++ (next t a).events := by
  rw [andThenAt_of_ending h, events, effects, preceded, List.map_append, List.filterMap_append,
    later, shift, List.map_map]
  rfl

theorem events_andThen {r : Run Effect α} {next : α → Run Effect β} {t : Nat} {a : α}
    (h : r.ending = some (t, a)) : (r.andThen next).events = r.events ++ (next a).events :=
  events_andThenAt h

/-- Work that goes on without events adds none. -/
theorem events_andThen_of_nil {r : Run Effect α} {next : α → Run Effect β}
    (h : ∀ t a, r.ending = some (t, a) → (next a).events = []) :
    (r.andThen next).events = r.events := by
  cases hr : r.ending with
  | none =>
    rw [andThen, andThenAt_of_none hr]
    rfl
  | some x => rw [events_andThen hr, h x.1 x.2 hr, List.append_nil]

theorem filter_events (q : Event → Bool) (r : Run Effect α) :
    r.events.filter q = (r.part (Effect.offers q)).filterMap fun x => x.2.event? := by
  rw [events, effects, part, List.filterMap_map, List.filter_filterMap, List.filterMap_filter]
  congr 1
  funext x
  obtain ⟨t, effect⟩ := x
  cases effect with
  | offer event => cases hq : q event <;> simp [Effect.event?, Effect.offers, hq]
  | _ => rfl

theorem filter_events_eq_nil {q : Event → Bool} {r : Run Effect α}
    (h : r.Only fun x => x.offers q = false) : r.events.filter q = [] := by
  rw [filter_events, part_eq_nil h, List.filterMap_nil]

end Run

/-! ## Records -/

/-- An answer of a model is in the record as the decision, or else as the text of the error. -/
def Side.IsRecorded (side : Side) (decision : Option Decision) (text : Option String) : Prop :=
  match side with
  | .ok own => decision = some own ∧ text = none
  | .error error => decision = none ∧ text = some error.message

theorem Side.isRecorded (side : Side) : side.IsRecorded side.decision? side.errorText? := by
  cases side <;> exact ⟨rfl, rfl⟩

namespace Comparison

/-- A record of what both models answered to a request. -/
structure Records (record : Comparison) (request : Request) (mode : Mode)
    (attributeSide relationshipSide : Side) : Prop where
  subject : record.subject = request.subject
  tenant : record.tenant = request.tenant
  authoritative : record.authoritative = mode.authoritative
  ofAttribute : attributeSide.IsRecorded record.attributeSide record.attributeError
  ofRelationship : relationshipSide.IsRecorded record.relationshipSide record.relationshipError

def authoritativeDecision (record : Comparison) : Option Decision :=
  match record.authoritative with
  | .attribute => record.attributeSide
  | .relationship => record.relationshipSide

def authoritativeError (record : Comparison) : Option String :=
  match record.authoritative with
  | .attribute => record.attributeError
  | .relationship => record.relationshipError

/-- A call returns what its record says: the authoritative side, or the attribute decision in place
of a relationship side that failed. -/
def Backs (record : Comparison) : Except AuthzError Outcome → Prop
  | .ok outcome =>
    if outcome.fallbackApplied then
      record.attributeSide = some outcome.decision ∧ record.relationshipSide = none ∧
        record.relationshipError.isSome = true
    else record.authoritativeDecision = some outcome.decision
  | .error error =>
    record.authoritativeDecision = none ∧ record.authoritativeError = some error.message

theorem records_ofSides (request : Request) (mode : Mode) (attributeSide relationshipSide : Side) :
    (ofSides request attributeSide relationshipSide mode.authoritative).Records request mode
      attributeSide relationshipSide :=
  ⟨rfl, rfl, rfl, Side.isRecorded attributeSide, Side.isRecorded relationshipSide⟩

theorem backs_verdict (e : Engine) (request : Request) (mode : Mode) (version : UInt64)
    (attributeSide relationshipSide : Side) :
    (ofSides request attributeSide relationshipSide mode.authoritative).Backs
      (Engine.returned mode version (e.verdict mode attributeSide relationshipSide)) := by
  unfold Engine.verdict
  rcases hm : mode.authoritative with _ | _
  · cases attributeSide with
    | ok decision => rfl
    | error error => exact ⟨rfl, rfl⟩
  · cases relationshipSide with
    | ok decision => rfl
    | error outage =>
      cases e.fallback with
      | false => exact ⟨rfl, rfl⟩
      | true =>
        cases attributeSide with
        | ok decision => exact ⟨rfl, rfl, rfl⟩
        | error error => exact ⟨rfl, rfl⟩

end Comparison

namespace Engine

/-! ## Events of each kind -/

section Sides

variable (e : Engine) (world : World) (request : Request)

theorem attributeSide_incidental :
    (e.attributeSide world none request).Only fun x =>
      x.offers (fun event => !event.isIncidental) = false :=
  only_attributeSide _ e world request rfl (fun _ => rfl) fun _ => rfl

theorem relationshipSide_incidental :
    (e.relationshipSide world none request).Only fun x =>
      x.offers (fun event => !event.isIncidental) = false :=
  only_relationshipSide _ e world request rfl (fun _ => rfl) (fun _ => rfl) (fun _ => rfl)
    fun _ => rfl

/-- What a call does until it is over reports no error that it could return. -/
theorem isIncidental_of_mem_resolve {mode : Mode} {event : Event}
    (h : event ∈ (e.resolve world none request mode).events) : event.isIncidental = true := by
  have hnone := Run.filter_events_eq_nil (only_resolve (e.attributeSide_incidental world request)
    (e.relationshipSide_incidental world request) (fun _ => rfl) (fun _ => rfl) mode)
  simpa using List.filter_eq_nil_iff.1 hnone event h

/-! ## Failed checks -/

/-- The failed checks in spite of which the relationship side comes to a decision. -/
def recoveredFailures : List CheckFailure :=
  match e.relationships.conclusion world.relationships request.principal request.tenant
    e.catalog with
  | .ok r => r.failures
  | .error _ => []

theorem events_concludeRelationship (r : RelationshipResolution) :
    (concludeRelationship (.ok r)).events = r.failures.map checkEvent := by
  rw [concludeRelationship, Run.events_map, Run.events_emitAll, List.filterMap_map]
  exact congrFun List.filterMap_eq_map r.failures

theorem failedChecks_relationshipSide :
    (e.relationshipSide world none request).events.filter
        (Event.reports .relationshipCheckFailed) =
      (e.recoveredFailures world request).map checkEvent := by
  have hresolve : (e.relationships.resolve world.relationships request.principal request.tenant
      e.catalog).events.filter (Event.reports .relationshipCheckFailed) = [] :=
    Run.filter_events_eq_nil
      (RelationshipSide.only_resolve _ _ _ _ _ rfl (fun _ => rfl) (fun _ => rfl) fun _ => rfl)
  rw [relationshipSide, Run.guarded, Run.events_andThen (e.relationships.resolve_ending _ _ _ _),
    List.filter_append, hresolve, List.nil_append, recoveredFailures]
  cases e.relationships.conclusion world.relationships request.principal request.tenant
    e.catalog with
  | error error => rfl
  | ok r =>
    rw [events_concludeRelationship, List.filter_eq_self]
    intro event hevent
    obtain ⟨failure, _, rfl⟩ := List.mem_map.1 hevent
    rfl

theorem failedChecks_resolve (mode : Mode) :
    (e.resolve world none request mode).events.filter (Event.reports .relationshipCheckFailed) =
      if mode = .attributeOnly then [] else (e.recoveredFailures world request).map checkEvent := by
  have hattribute : (e.attributeSide world none request).Only fun x =>
      x.offers (Event.reports .relationshipCheckFailed) = false :=
    only_attributeSide _ e world request rfl (fun _ => rfl) fun _ => rfl
  rw [Run.filter_events, part_resolve_of_relationship e world request hattribute (fun _ => rfl)
    (fun _ => rfl)]
  split
  · rfl
  · rw [← Run.filter_events, failedChecks_relationshipSide]

/-! ## Unreadable permissions -/

theorem events_attributeReports (subject : String) (r : AttributeResolution) :
    (attributeReports subject r).filterMap Effect.event? =
      if r.malformed = 0 then [] else [malformedEvent subject r.malformed] := by
  rw [attributeReports, List.filterMap_append]
  split <;> split <;> rfl

theorem length_unreadables_attributeSide :
    ((e.attributeSide world none request).events.filter
      (Event.reports .malformedPermissionData)).length ≤ 1 := by
  have hfetch : (fetchPermissions world request).events = [] :=
    Run.events_eq_nil (.andThen (.emit rfl) fun _ _ _ => .map (.await _) _)
  rw [attributeSide, Run.guarded]
  cases hend : (fetchPermissions world request).ending with
  | none =>
    rw [Run.events_andThen_of_nil, hfetch]
    · exact Nat.zero_le _
    · intro t fetched h
      cases hend.symm.trans h
  | some x =>
    rw [Run.events_andThen hend, hfetch, List.nil_append]
    cases x.2 with
    | error error => exact Nat.zero_le _
    | ok permissions =>
      rw [concludeAttribute, Run.events_map, Run.events_emitAll, events_attributeReports]
      split
      · exact Nat.zero_le _
      · exact List.length_filter_le _ _

theorem events_runFallBack (outage : AuthzError) (side : Side) :
    (runFallBack outage side).events = [] :=
  Run.events_eq_nil (only_runFallBack (fun x => x.event? = none) (fun _ => rfl) outage side)

/-- Permissions are asked for once at most. -/
theorem unreadables_resolve (mode : Mode) :
    ((e.resolve world none request mode).events.filter
        (Event.reports .malformedPermissionData)).Sublist
      ((e.attributeSide world none request).events.filter
        (Event.reports .malformedPermissionData)) := by
  have hrelationship : (e.relationshipSide world none request).Only fun x =>
      x.offers (Event.reports .malformedPermissionData) = false :=
    only_relationshipSide _ e world request rfl (fun _ => rfl) (fun _ => rfl) (fun _ => rfl)
      fun _ => rfl
  have hboth (authoritative : Source) :
      (e.resolveBoth world none request authoritative).events.filter
          (Event.reports .malformedPermissionData) =
        (e.attributeSide world none request).events.filter
          (Event.reports .malformedPermissionData) := by
    rw [Run.filter_events, part_resolveBoth e world request (fun _ => rfl) (fun _ => rfl),
      Run.part_beside_right hrelationship, ← Run.filter_events]
  cases mode with
  | attributeOnly => exact List.Sublist.refl _
  | relationshipOnly =>
    have hnone : (e.relationshipSide world none request).events.filter
        (Event.reports .malformedPermissionData) = [] := Run.filter_events_eq_nil hrelationship
    rw [resolve, resolveRelationship, Run.events_andThenAt (e.ending_relationshipSide world request),
      List.filter_append, hnone, List.nil_append]
    cases e.relationshipResult world request with
    | ok decision => exact List.nil_sublist _
    | error outage =>
      by_cases hf : e.mayFallBack outage = true
      · simp only [hf, if_true, Option.map_none]
        have hevents : ((e.attributeSide world none request).andThen
            (runFallBack outage)).events = (e.attributeSide world none request).events :=
          Run.events_andThen_of_nil fun _ side _ => events_runFallBack outage side
        exact hevents ▸ List.Sublist.refl _
      · simp only [hf]
        exact List.nil_sublist _
  | dualValidate => exact hboth _ ▸ List.Sublist.refl _
  | dualEnforceNew => exact hboth _ ▸ List.Sublist.refl _

/-! ## Comparisons -/

theorem attributeSide_uncompared :
    (e.attributeSide world none request).Only fun x => x.offers Event.isComparison = false :=
  only_attributeSide _ e world request rfl (fun _ => rfl) fun _ => rfl

theorem relationshipSide_uncompared :
    (e.relationshipSide world none request).Only fun x => x.offers Event.isComparison = false :=
  only_relationshipSide _ e world request rfl (fun _ => rfl) (fun _ => rfl) (fun _ => rfl)
    fun _ => rfl

theorem events_concludeBoth (authoritative : Source) {attributeSide relationshipSide : Side}
    (ha : Side.isCanceled attributeSide = false) (hr : Side.isCanceled relationshipSide = false) :
    (e.concludeBoth request authoritative (attributeSide, relationshipSide)).events =
      [.comparison (.ofSides request attributeSide relationshipSide authoritative)] := by
  have hc : ¬ (Side.isCanceled attributeSide || Side.isCanceled relationshipSide) = true := by
    rw [ha, hr]
    exact Bool.false_ne_true
  rw [concludeBoth, if_neg hc, Run.events_andThen_of_nil]
  · rfl
  · intro _ _ _
    split
    · rfl
    · split
      · exact events_runFallBack _ _
      · rfl

/-- Both sides are compared once they are over, and not before. -/
theorem comparisons_resolveBoth (authoritative : Source) :
    (e.resolveBoth world none request authoritative).events.filter Event.isComparison =
      match e.attributeResult world request with
      | none => []
      | some x =>
        [.comparison (.ofSides request x.2 (e.relationshipResult world request) authoritative)] := by
  have hsides : ((e.attributeSide world none request).beside
      (e.relationshipSide world none request)).events.filter Event.isComparison = [] :=
    Run.filter_events_eq_nil ((e.attributeSide_uncompared world request).beside
      (e.relationshipSide_uncompared world request))
  rw [resolveBoth]
  cases hx : e.attributeResult world request with
  | none =>
    have hend : (e.attributeSide world none request).ending = none := by
      rw [ending_attributeSide, hx]
    rw [Run.events_andThen_of_nil, hsides]
    intro t sides h
    rw [Run.beside, hend] at h
    cases h
  | some x =>
    have hend : (e.attributeSide world none request).ending = some (x.1, x.2) := by
      rw [ending_attributeSide, hx]
    rw [Run.events_andThen (Run.ending_beside hend (e.ending_relationshipSide world request)),
      List.filter_append, hsides, e.events_concludeBoth request authoritative
        (isCanceled_of_attributeResult hx) (e.isCanceled_of_relationshipResult world request)]
    rfl

theorem comparisons_resolve_of_not_dual {mode : Mode} (h : mode.isDual = false) :
    (e.resolve world none request mode).events.filter Event.isComparison = [] := by
  refine Run.filter_events_eq_nil ?_
  cases mode with
  | attributeOnly => exact e.attributeSide_uncompared world request
  | relationshipOnly =>
    exact only_resolveRelationship (e.attributeSide_uncompared world request)
      (e.relationshipSide_uncompared world request) fun _ => rfl
  | dualValidate => cases h
  | dualEnforceNew => cases h

end Sides

/-! ## Events of calls -/

/-- The report on the error that a call returns, if it returns one. -/
def finalReport : Option (Except AuthzError Outcome) → List Event
  | some (.error error) => [.error error.kind error.message]
  | _ => []

theorem events_finish (operation : Operation) (mode : Mode) (version : UInt64)
    (result : Except AuthzError Resolved) :
    (finish operation mode version result).events =
      finalReport (some (returned mode version result)) := by
  cases result <;> rfl

section Calls

variable {e : Engine} {world : World} {policy : PolicySnapshot} {context : CallContext}
  {request : Request} {operation : Operation}

/-- A call that is not canceled offers what it would offer undisturbed, and then its error. -/
theorem events_authorize
    (h : (e.authorize world policy context request operation).value? ≠ some (.error .canceled)) :
    (e.authorize world policy context request operation).events =
      (e.undisturbed world policy request).events ++
        finalReport (e.authorize world policy context request operation).value? := by
  have hvalue : (e.authorize world policy context request operation).value? =
      (e.undisturbed world policy request).ending.map fun x =>
        returned (policy.policy.select request.tenant) policy.version x.2 := by
    rw [Run.value?, ending_authorize_of_not_canceled h, Option.map_map]
    rfl
  have hlog : (Run.emit (.log (modeLog request (policy.policy.select request.tenant)))).events =
      [] := rfl
  rw [hvalue, authorize_eq, guarded_of_not_canceled h, Run.events_andThen rfl, hlog,
    List.nil_append]
  cases hend : (e.undisturbed world policy request).ending with
  | none =>
    rw [Run.events_andThen_of_nil]
    · exact (List.append_nil _).symm
    · intro t result h
      cases hend.symm.trans h
  | some x =>
    rw [Run.events_andThen hend, events_finish]
    rfl

theorem filter_finalReport_of_recovered {q : Event → Bool}
    (hq : ∀ event, q event = true → event.isIncidental = true)
    (x : Option (Except AuthzError Outcome)) : (finalReport x).filter q = [] := by
  refine List.filter_eq_nil_iff.2 fun event hevent hqevent => ?_
  cases x with
  | none => cases hevent
  | some x =>
    cases x with
    | ok outcome => cases hevent
    | error error =>
      rw [List.mem_singleton.1 hevent] at hqevent
      cases error.isRecovered_kind.symm.trans (hq _ hqevent)

/-- Of events that cannot be the last one, a call offers those that it would offer undisturbed. -/
theorem filter_events_authorize {q : Event → Bool}
    (hq : ∀ event, q event = true → event.isIncidental = true)
    (h : (e.authorize world policy context request operation).value? ≠ some (.error .canceled)) :
    (e.authorize world policy context request operation).events.filter q =
      (e.undisturbed world policy request).events.filter q := by
  rw [events_authorize h, List.filter_append, filter_finalReport_of_recovered hq, List.append_nil]

theorem resolve_of_dual {mode : Mode} (hdual : mode.isDual = true) (stop : Option Interruption) :
    e.resolve world stop request mode =
      e.resolveBoth world stop request mode.authoritative := by
  cases mode with
  | attributeOnly => cases hdual
  | relationshipOnly => cases hdual
  | dualValidate => rfl
  | dualEnforceNew => rfl

/-- Neither side of a call that is not canceled is given up. -/
theorem sides_of_not_canceled (hdual : (policy.policy.select request.tenant).isDual = true)
    (h : (e.authorize world policy context request operation).value? ≠ some (.error .canceled)) :
    e.attributeSide world context.interruption? request = e.attributeSide world none request ∧
      e.relationshipSide world context.interruption? request =
        e.relationshipSide world none request := by
  cases hi : context.interruption? with
  | none => exact ⟨rfl, rfl⟩
  | some i =>
    have hproper := CallContext.proper_of_interruption? hi
    have hends := endsBefore_of_not_canceled hi h
    rw [undisturbed, resolve_of_dual hdual, resolveBoth,
      Run.endsBefore_andThen (e.ending_concludeBoth_zero request _), Run.endsBefore_beside,
      Bool.and_eq_true] at hends
    rw [e.attributeSide_stopped world request hproper,
      e.relationshipSide_stopped world request hproper,
      Run.stoppedBefore_of_endsBefore hends.1, Run.stoppedBefore_of_endsBefore hends.2]
    exact ⟨rfl, rfl⟩

/-- What a call that is not canceled has compared once it returns. -/
theorem comparisons_of_dual (hdual : (policy.policy.select request.tenant).isDual = true)
    (h : (e.authorize world policy context request operation).value? ≠ some (.error .canceled))
    {x : Except AuthzError Outcome}
    (hx : (e.authorize world policy context request operation).value? = some x) :
    (e.attributeSide world context.interruption? request).value? =
        some (e.attributeSideOf world request) ∧
      (e.relationshipSide world context.interruption? request).value? =
        some (e.relationshipResult world request) ∧
      (e.authorize world policy context request operation).events.filter Event.isComparison =
        [.comparison (.ofSides request (e.attributeSideOf world request)
          (e.relationshipResult world request)
          (policy.policy.select request.tenant).authoritative)] := by
  obtain ⟨hattribute, hrelationship⟩ := sides_of_not_canceled hdual h
  rw [Run.value?, ending_authorize_of_not_canceled h, undisturbed, resolve_of_dual hdual,
    ending_resolveBoth] at hx
  rw [filter_events_authorize (fun _ => Event.isIncidental_of_isComparison) h, undisturbed,
    resolve_of_dual hdual, comparisons_resolveBoth, hattribute, hrelationship, Run.value?,
    ending_attributeSide, Run.value?, ending_relationshipSide, attributeSideOf]
  cases ha : e.attributeResult world request with
  | none =>
    rw [ha] at hx
    cases hx
  | some y => exact ⟨rfl, rfl, rfl⟩

theorem comparisons_eq_nil
    (h : (e.authorize world policy context request operation).value? ≠ some (.error .canceled))
    (hnone : (policy.policy.select request.tenant).isDual = false ∨
      (e.authorize world policy context request operation).value? = none) :
    (e.authorize world policy context request operation).events.filter Event.isComparison = [] := by
  rw [filter_events_authorize (fun _ => Event.isIncidental_of_isComparison) h, undisturbed]
  cases hdual : (policy.policy.select request.tenant).isDual with
  | false => exact e.comparisons_resolve_of_not_dual world request hdual
  | true =>
    have hx := hnone.resolve_left (by simp [hdual])
    rw [Run.value?, ending_authorize_of_not_canceled h, undisturbed, resolve_of_dual hdual,
      ending_resolveBoth] at hx
    rw [resolve_of_dual hdual, comparisons_resolveBoth]
    cases ha : e.attributeResult world request with
    | none => rfl
    | some y =>
      rw [ha] at hx
      cases hx

/-- A comparison is of both sides of a call that runs both, for the side that the call enforces. -/
theorem eq_of_comparison_mem {record : Comparison}
    (h : .offer (.comparison record) ∈
      (e.authorize world policy context request operation).effects) :
    (policy.policy.select request.tenant).isDual = true ∧
      record = .ofSides request (e.attributeSideOf world request)
        (e.relationshipResult world request)
        (policy.policy.select request.tenant).authoritative := by
  by_cases hcanceled : (e.authorize world policy context request operation).value? =
      some (.error .canceled)
  · cases uncompared_of_canceled hcanceled h
  · have hmem : .comparison record ∈
        (e.authorize world policy context request operation).events.filter Event.isComparison :=
      List.mem_filter.2 ⟨List.mem_filterMap.2 ⟨_, h, rfl⟩, rfl⟩
    cases hdual : (policy.policy.select request.tenant).isDual with
    | false =>
      rw [comparisons_eq_nil hcanceled (.inl hdual)] at hmem
      cases hmem
    | true =>
      cases hx : (e.authorize world policy context request operation).value? with
      | none =>
        rw [comparisons_eq_nil hcanceled (.inr hx)] at hmem
        cases hmem
      | some x =>
        rw [(comparisons_of_dual hdual hcanceled hx).2.2, List.mem_singleton] at hmem
        exact ⟨rfl, Event.comparison.inj hmem⟩

theorem failedChecks_authorize
    (h : (e.authorize world policy context request operation).value? ≠ some (.error .canceled)) :
    (e.authorize world policy context request operation).events.filter
        (Event.reports .relationshipCheckFailed) =
      if policy.policy.select request.tenant = .attributeOnly then []
      else (e.recoveredFailures world request).map checkEvent := by
  rw [filter_events_authorize (fun _ => Event.isIncidental_of_reports rfl) h, undisturbed,
    failedChecks_resolve]

/-- A call that returns no error reports only errors that it recovered from. -/
theorem isIncidental_of_mem_authorize
    (h : (e.authorize world policy context request operation).value? ≠ some (.error .canceled))
    (hdecided : ∀ error,
      (e.authorize world policy context request operation).value? ≠ some (.error error))
    {event : Event}
    (hevent : event ∈ (e.authorize world policy context request operation).events) :
    event.isIncidental = true := by
  have hfinal : finalReport (e.authorize world policy context request operation).value? = [] := by
    cases hx : (e.authorize world policy context request operation).value? with
    | none => rfl
    | some x =>
      cases x with
      | ok outcome => rfl
      | error error => exact absurd hx (hdecided error)
  rw [events_authorize h, hfinal, List.append_nil] at hevent
  exact e.isIncidental_of_mem_resolve world request hevent

end Calls

/-- What can be told of a call that is not canceled from the events it offers. Both sides are
compared if the mode asks both, once, and the record holds what they answered and backs what the
call returns. An error that is returned is reported last and not before; otherwise only errors that
the call recovered from are reported: once at most that permissions could not be read, and each
failed check of a resolution that succeeded. -/
theorem call_recorded {e : Engine} {world : World} {policy : PolicySnapshot}
    {context : CallContext} {request : Request} {operation : Operation}
    (h : (e.authorize world policy context request operation).value? ≠ some (.error .canceled)) :
    let mode := policy.policy.select request.tenant
    let call := e.authorize world policy context request operation
    let resolution := (e.relationships.resolve world.relationships request.principal
      request.tenant e.catalog).value?
    let failedChecks := call.events.filter (Event.reports .relationshipCheckFailed)
    (mode.isDual = false ∨ call.value? = none → call.events.filter Event.isComparison = []) ∧
    (mode.isDual = true → ∀ x, call.value? = some x → ∃ record attributeSide relationshipSide,
      (e.attributeSide world context.interruption? request).value? = some attributeSide ∧
      (e.relationshipSide world context.interruption? request).value? = some relationshipSide ∧
      call.events.filter Event.isComparison = [.comparison record] ∧
      record.Records request mode attributeSide relationshipSide ∧ record.Backs x) ∧
    (∀ error, call.value? = some (.error error) → ∃ before,
      call.events = before ++ [.error error.kind error.message] ∧
      ∀ event ∈ before, event.reports error.kind = false) ∧
    ((∀ error, call.value? ≠ some (.error error)) → ∀ kind details,
      .error kind details ∈ call.events →
        kind = .malformedPermissionData ∨ kind = .relationshipCheckFailed) ∧
    (call.events.filter (Event.reports .malformedPermissionData)).length ≤ 1 ∧
    (∀ r, mode ≠ .attributeOnly → resolution = some (.ok r) →
      failedChecks = r.failures.map checkEvent) ∧
    ((mode = .attributeOnly ∨ ∀ r, resolution ≠ some (.ok r)) → failedChecks = []) := by
  intro mode call resolution failedChecks
  have hresolution : resolution = some (e.relationships.conclusion world.relationships
      request.principal request.tenant e.catalog) :=
    e.relationships.value?_resolve world.relationships request.principal request.tenant e.catalog
  have hchecks : failedChecks =
      if mode = .attributeOnly then [] else (e.recoveredFailures world request).map checkEvent :=
    failedChecks_authorize h
  refine ⟨comparisons_eq_nil h, ?_, ?_, ?_, ?_, ?_, ?_⟩
  · intro hdual x hx
    obtain ⟨ha, hr, hcomparison⟩ := comparisons_of_dual hdual h hx
    refine ⟨_, _, _, ha, hr, hcomparison, Comparison.records_ofSides request mode _ _, ?_⟩
    rw [eq_returned_verdict h hx]
    exact Comparison.backs_verdict e request mode policy.version _ _
  · intro error herror
    refine ⟨(e.undisturbed world policy request).events, ?_, fun event hevent => ?_⟩
    · rw [events_authorize h, herror]
      rfl
    · exact Event.not_reports_of_isIncidental (e.isIncidental_of_mem_resolve world request hevent)
        error
  · intro hdecided kind details hevent
    exact ErrorKind.isRecovered_iff.1 (isIncidental_of_mem_authorize h hdecided hevent)
  · have hunreadables := e.unreadables_resolve world request mode
    rw [← undisturbed, ← filter_events_authorize (fun _ => Event.isIncidental_of_reports rfl) h]
      at hunreadables
    exact Nat.le_trans hunreadables.length_le (e.length_unreadables_attributeSide world request)
  · intro r hmode hr
    rw [hchecks, if_neg hmode, recoveredFailures, Option.some.inj (hresolution.symm.trans hr)]
  · intro hnone
    rw [hchecks]
    split
    · rfl
    · rename_i hmode
      have hfailed := hnone.resolve_left hmode
      rw [hresolution] at hfailed
      rw [recoveredFailures]
      cases hr : e.relationships.conclusion world.relationships request.principal request.tenant
        e.catalog with
      | error error => rfl
      | ok r => exact absurd (congrArg some hr) (hfailed r)

/-- No check is answered, and the attribute decision stands in. One filter could not be read. -/
theorem call_recorded_of_fallback :
    let e : Engine :=
      ⟨.ofIds ["tasks", "remediations"], ⟨.standard, .ofMillis 500, .ofMillis 200⟩, true⟩
    let world : World :=
      ⟨.after 5 (.ok [⟨"run:read", [.unrecognized, .equal "service" "tasks"]⟩]),
        ⟨.asked (.after 40 (.ok ⟨"ws-1"⟩)), fun _ _ => .silent⟩⟩
    let request : Request := ⟨"alice", .user, "1000", "run:read"⟩
    let call := e.authorize world ⟨.fixed .dualEnforceNew, 1⟩ .background request .authorize
    let decision : Decision := ⟨.attribute, .restricted (.ofList ["tasks"]), none⟩
    call.value? = some (.ok ⟨decision, .dualEnforceNew, true, 1⟩) ∧
      ∃ record : Comparison, call.events.filter Event.isComparison = [.comparison record] ∧
        record.authoritative = .relationship ∧ record.attributeSide = some decision ∧
        record.relationshipSide = none ∧
        (call.events.filter (Event.reports .malformedPermissionData)).length ≤ 1 := by
  intro e world request call decision
  have hvalue : call.value? = some (.ok ⟨decision, .dualEnforceNew, true, 1⟩) :=
    Run.value?_of_toOption (by decide +kernel)
  obtain ⟨_, hdual, _, _, hunreadable, _⟩ := call_recorded (not_canceled_of_ok hvalue)
  obtain ⟨record, _, _, _, _, hcomparison, hrecords, hbacks⟩ := hdual rfl _ hvalue
  exact ⟨hvalue, record, hcomparison, hrecords.authoritative, hbacks.1, hbacks.2.1, hunreadable⟩

end Engine

end ScopedAccess
