import ScopedAccess.Proofs.Events

/-!
# ScopedAccess.Proofs.Outages

What the events of a call tell of the lookup and the checks that failed in it.

* `RelationshipSide.Fails`: what can go wrong when the relationship side is asked.
* `recovered_of_fails`: a failed check is in the resolution, if the resolution succeeds.
* `failure_revealed_iff`: every failure is told of by an event, unless the attribute decision stands
  in for a relationship side that was asked alone.
* `outage_unrevealed`: an outage of which no event tells.
-/

namespace ScopedAccess

namespace RelationshipSide

/-- Something fails or takes too long: the lookup of the workspace, or a check. -/
inductive Fails (s : RelationshipSide) (world : RelationshipWorld) (principal : Principal)
    (catalog : Catalog) : Option CheckFailure → Prop where
  | lookup {reason : String} (failed : s.workspaceInTime world = .error reason) :
      Fails s world principal catalog none
  | check {workspace : Workspace} {target : CheckTarget} {fault : CheckFault}
      (found : s.workspaceInTime world = .ok workspace) (asked : target ∈ s.targets catalog)
      (failed : s.checkInTime world principal workspace target = .error fault) :
      Fails s world principal catalog (some ⟨target, fault⟩)

theorem failures_of_ofAnswers {answers : List CheckAnswer} {r : RelationshipResolution}
    (h : RelationshipResolution.ofAnswers answers = .ok r) :
    r.failures = RelationshipResolution.failuresOf answers := by
  unfold RelationshipResolution.ofAnswers at h
  split at h
  · cases h
    rfl
  · split at h
    · cases h
    · cases h
      rfl

/-- Only checks fail in a resolution that succeeds, and it lists them. -/
theorem recovered_of_fails {s : RelationshipSide} {world : RelationshipWorld}
    {principal : Principal} {tenant : String} {catalog : Catalog} {r : RelationshipResolution}
    {failure : Option CheckFailure} (h : s.Fails world principal catalog failure)
    (hr : s.conclusion world principal tenant catalog = .ok r) :
    ∃ own ∈ r.failures, failure = some own := by
  cases h with
  | lookup hfailed =>
    rw [conclusion, hfailed] at hr
    cases hr
  | @check workspace target fault hfound hasked hfailed =>
    rw [conclusion_of_workspace hfound] at hr
    refine ⟨_, ?_, rfl⟩
    rw [failures_of_ofAnswers hr]
    refine List.mem_filterMap.2 ⟨⟨target, .error fault⟩, ?_, rfl⟩
    rw [answersOf, ← hfailed]
    exact List.mem_map_of_mem hasked

end RelationshipSide

namespace Event

/-- Whether an event tells that the relationship side as a whole failed. -/
def revealsOutage : Event → Bool
  | comparison record => record.relationshipSide.isNone && record.relationshipError.isSome
  | error kind _ => kind == .workspaceLookupFailed || kind == .relationshipServiceUnavailable

/-- An event tells of a failed lookup or check. -/
def Reveals (event : Event) : Option CheckFailure → Prop
  | none => event.revealsOutage = true
  | some failure => event = Engine.checkEvent failure ∨ event.revealsOutage = true

theorem reveals_of_revealsOutage {event : Event} (h : event.revealsOutage = true)
    (failure : Option CheckFailure) : event.Reveals failure := by
  cases failure with
  | none => exact h
  | some own => exact .inr h

theorem revealsOutage_of_isOutage {error : AuthzError} (h : error.isOutage = true)
    (details : String) : (Event.error error.kind details).revealsOutage = true := by
  cases error <;> first | rfl | cases h

/-- An error that calls recover from tells of a failed check at most. -/
theorem reports_of_reveals {event : Event} {failure : Option CheckFailure}
    (hrecovered : event.isIncidental = true) (hsingle : event.isComparison = false)
    (h : event.Reveals failure) : event.reports .relationshipCheckFailed = true := by
  have hquiet : event.revealsOutage = false := by
    cases event with
    | comparison record => cases hsingle
    | error kind details => cases kind <;> first | rfl | cases hrecovered
  cases failure with
  | none => cases hquiet.symm.trans h
  | some own =>
    rcases h with rfl | h
    · rfl
    · cases hquiet.symm.trans h

end Event

namespace Engine

/-- The relationship side is asked alone and the attribute decision stands in for it. -/
def Replaces (mode : Mode) (result : Except AuthzError Outcome) : Prop :=
  mode = .relationshipOnly ∧ ∃ outcome, result = .ok outcome ∧ outcome.fallbackApplied = true

theorem fallbackApplied_of_verdict {e : Engine} {mode : Mode} {attributeSide : Side}
    {outage : AuthzError} {r : Resolved} (hm : mode.authoritative = .relationship)
    (h : e.verdict mode attributeSide (.error outage) = .ok r) : r.fallbackApplied = true := by
  unfold verdict at h
  rw [hm] at h
  cases hf : e.fallback <;> cases attributeSide <;> rw [hf] at h <;> cases h
  rfl

section Calls

variable {e : Engine} {world : World} {policy : PolicySnapshot} {context : CallContext}
  {request : Request} {operation : Operation} {x : Except AuthzError Outcome}
  {failure : Option CheckFailure}

/-- The attribute decision stands in only for a relationship side that failed. -/
theorem outage_of_replaces
    (h : (e.authorize world policy context request operation).value? ≠ some (.error .canceled))
    (hx : (e.authorize world policy context request operation).value? = some x)
    (hreplaces : Replaces (policy.policy.select request.tenant) x) :
    ∃ outage, e.relationshipResult world request = .error outage := by
  obtain ⟨hmode, outcome, rfl, hfallback⟩ := hreplaces
  have hreturned := eq_returned_verdict h hx
  rw [hmode] at hreturned
  cases hr : e.relationshipResult world request with
  | error outage => exact ⟨outage, rfl⟩
  | ok decision =>
    rw [hr] at hreturned
    cases hreturned
    cases hfallback

theorem unrevealed_of_replaces
    (h : (e.authorize world policy context request operation).value? ≠ some (.error .canceled))
    (hx : (e.authorize world policy context request operation).value? = some x)
    (hreplaces : Replaces (policy.policy.select request.tenant) x) {event : Event}
    (hevent : event ∈ (e.authorize world policy context request operation).events) :
    ¬ event.Reveals failure := by
  obtain ⟨outage, hr⟩ := outage_of_replaces h hx hreplaces
  obtain ⟨hmode, outcome, rfl, _⟩ := hreplaces
  have hrecovered : event.isIncidental = true := by
    refine isIncidental_of_mem_authorize h (fun error herror => ?_) hevent
    cases hx.symm.trans herror
  have hsingle : event.isComparison = false := by
    refine Bool.eq_false_iff.2 fun hcomparison => ?_
    have hmem := List.mem_filter.2 ⟨hevent, hcomparison⟩
    rw [comparisons_eq_nil h (.inl (by rw [hmode]; rfl))] at hmem
    cases hmem
  intro hreveals
  -- a resolution that failed recovered from no check
  have hnone : e.recoveredFailures world request = [] := by
    unfold relationshipResult at hr
    unfold recoveredFailures
    split
    · rename_i r hok
      rw [hok] at hr
      cases hr
    · rfl
  have hmem := List.mem_filter.2 ⟨hevent, Event.reports_of_reveals hrecovered hsingle hreveals⟩
  rw [failedChecks_authorize h, hnone, List.map_nil, ite_self] at hmem
  cases hmem

theorem revealed_of_decision {decision : Decision}
    (h : (e.authorize world policy context request operation).value? ≠ some (.error .canceled))
    (hm : policy.policy.select request.tenant ≠ .attributeOnly)
    (hf : e.relationships.Fails world.relationships request.principal e.catalog failure)
    (hr : e.relationshipResult world request = .ok decision) :
    ∃ event ∈ (e.authorize world policy context request operation).events,
      event.Reveals failure := by
  obtain ⟨r, hconclusion, _⟩ := conclusion_of_relationshipResult hr
  obtain ⟨own, hown, rfl⟩ := RelationshipSide.recovered_of_fails hf hconclusion
  have hmem : checkEvent own ∈ (e.authorize world policy context request operation).events.filter
      (Event.reports .relationshipCheckFailed) := by
    rw [failedChecks_authorize h, if_neg hm, recoveredFailures, hconclusion]
    exact List.mem_map_of_mem hown
  exact ⟨checkEvent own, (List.mem_filter.1 hmem).1, .inl rfl⟩

theorem revealed_of_outage {outage : AuthzError}
    (h : (e.authorize world policy context request operation).value? ≠ some (.error .canceled))
    (hx : (e.authorize world policy context request operation).value? = some x)
    (hm : policy.policy.select request.tenant ≠ .attributeOnly)
    (hr : e.relationshipResult world request = .error outage)
    (hreplaces : ¬ Replaces (policy.policy.select request.tenant) x) :
    ∃ event ∈ (e.authorize world policy context request operation).events,
      event.revealsOutage = true := by
  cases hdual : (policy.policy.select request.tenant).isDual with
  | true =>
    obtain ⟨_, _, hcomparison⟩ := comparisons_of_dual hdual h hx
    have hmem := List.mem_singleton_self (Event.comparison (.ofSides request
      (e.attributeSideOf world request) (e.relationshipResult world request)
      (policy.policy.select request.tenant).authoritative))
    rw [← hcomparison] at hmem
    refine ⟨_, (List.mem_filter.1 hmem).1, ?_⟩
    rw [hr]
    rfl
  | false =>
    have hmode : policy.policy.select request.tenant = .relationshipOnly := by
      generalize policy.policy.select request.tenant = mode at hm hdual
      cases mode with
      | attributeOnly => exact absurd rfl hm
      | relationshipOnly => rfl
      | dualValidate => cases hdual
      | dualEnforceNew => cases hdual
    have hreturned := eq_returned_verdict h hx
    rw [hmode, hr] at hreturned
    cases hv : e.verdict .relationshipOnly (e.attributeSideOf world request) (.error outage) with
    | error error =>
      -- the error that is returned is the outage, and it is reported last
      obtain ⟨hm, _⟩ | ⟨_, hown⟩ := verdict_error hv
      · cases hm
      · cases hown
        rw [hv] at hreturned
        subst hreturned
        refine ⟨.error outage.kind outage.message, ?_,
          Event.revealsOutage_of_isOutage (isOutage_of_relationshipResult hr) _⟩
        rw [events_authorize h, hx]
        exact List.mem_append_right _ List.mem_cons_self
    | ok resolved =>
      rw [hv] at hreturned
      exact absurd ⟨hmode, _, hreturned, fallbackApplied_of_verdict rfl hv⟩ hreplaces

end Calls

/-- Every failed lookup or check of a call that returns is told of by an event, unless the
relationship side was asked alone and the attribute decision stands in for it: then none tells of
it. -/
theorem failure_revealed_iff {e : Engine} {world : World} {policy : PolicySnapshot}
    {context : CallContext} {request : Request} {operation : Operation}
    {x : Except AuthzError Outcome} {failure : Option CheckFailure}
    (hx : (e.authorize world policy context request operation).value? = some x)
    (hcanceled : x ≠ .error .canceled)
    (hm : policy.policy.select request.tenant ≠ .attributeOnly)
    (hf : e.relationships.Fails world.relationships request.principal e.catalog failure) :
    (∃ event ∈ (e.authorize world policy context request operation).events,
        event.Reveals failure) ↔
      ¬ Replaces (policy.policy.select request.tenant) x := by
  have h : (e.authorize world policy context request operation).value? ≠
      some (.error .canceled) := by
    rw [hx]
    exact fun heq => hcanceled (Option.some.inj heq)
  constructor
  · rintro ⟨event, hevent, hreveals⟩ hreplaces
    exact unrevealed_of_replaces h hx hreplaces hevent hreveals
  · intro hreplaces
    cases hr : e.relationshipResult world request with
    | ok decision => exact revealed_of_decision h hm hf hr
    | error outage =>
      obtain ⟨event, hevent, hreveals⟩ := revealed_of_outage h hx hm hr hreplaces
      exact ⟨event, hevent, Event.reveals_of_revealsOutage hreveals failure⟩

/-- The workspace of an organization cannot be found. Both sides are compared, and the record tells
of it. -/
theorem failure_revealed_iff_of_both_sides :
    let e : Engine :=
      ⟨.ofIds ["tasks", "remediations"], ⟨.standard, .ofMillis 2000, .ofMillis 1000⟩, true⟩
    let world : World :=
      ⟨.after 0 (.ok [⟨"run:read", []⟩]),
        ⟨.asked (.after 0 (.error (.noWorkspace "1000"))), fun _ _ => .after 0 (.ok false)⟩⟩
    let request : Request := ⟨"alice", .user, "1000", "run:read"⟩
    let call := e.authorize world ⟨.fixed .dualEnforceNew, 1⟩ .background request .authorize
    call.value? = some (.ok ⟨.unrestricted .attribute, .dualEnforceNew, true, 1⟩) ∧
      ∃ event ∈ call.events, event.Reveals none := by
  intro e world request call
  have hlookup : e.relationships.workspaceInTime world.relationships =
      .error (LookupFault.noWorkspace "1000").message := rfl
  have hfails : e.relationships.Fails world.relationships request.principal e.catalog none :=
    .lookup hlookup
  have hvalue : call.value? = some (.ok ⟨.unrestricted .attribute, .dualEnforceNew, true, 1⟩) :=
    Run.value?_of_toOption (by decide +kernel)
  refine ⟨hvalue, (failure_revealed_iff hvalue (fun h => nomatch h) (by decide) hfails).2 ?_⟩
  rintro ⟨hmode, _⟩
  cases hmode

/-- The same where the relationship side is asked alone: no event is offered at all. -/
theorem outage_unrevealed :
    let e : Engine :=
      ⟨.ofIds ["tasks", "remediations"], ⟨.standard, .ofMillis 2000, .ofMillis 1000⟩, true⟩
    let world : World :=
      ⟨.after 0 (.ok [⟨"run:read", []⟩]),
        ⟨.asked (.after 0 (.error (.noWorkspace "1000"))), fun _ _ => .after 0 (.ok false)⟩⟩
    let request : Request := ⟨"alice", .user, "1000", "run:read"⟩
    let call := e.authorize world ⟨.fixed .relationshipOnly, 1⟩ .background request .authorize
    e.relationships.Fails world.relationships request.principal e.catalog none ∧
      call.value? = some (.ok ⟨.unrestricted .attribute, .relationshipOnly, true, 1⟩) ∧
      call.events = [] ∧ ¬ ∃ event ∈ call.events, event.Reveals none := by
  intro e world request call
  have hlookup : e.relationships.workspaceInTime world.relationships =
      .error (LookupFault.noWorkspace "1000").message := rfl
  have hfails : e.relationships.Fails world.relationships request.principal e.catalog none :=
    .lookup hlookup
  have hvalue : call.value? =
      some (.ok ⟨.unrestricted .attribute, .relationshipOnly, true, 1⟩) :=
    Run.value?_of_toOption (by decide +kernel)
  have hevents : call.events = [] := by decide +kernel
  refine ⟨hfails, hvalue, hevents, ?_⟩
  rw [hevents]
  rintro ⟨event, hevent, _⟩
  cases hevent

end Engine

end ScopedAccess
