import ScopedAccess.Proofs.Engine

/-!
# ScopedAccess.Proofs.Verdict

What an authorization call returns unless it is canceled.

* `verdict` is a function of the authoritative model alone, not of the mode, and so is the result of
  a call: `value?_authorize`.
* `authorize_verdict`: the table of modes, and which errors each of them returns.
-/

namespace ScopedAccess

/-- What a call came to, whatever its mode was. -/
def Outcome.resolved (o : Outcome) : Resolved := ⟨o.decision, o.fallbackApplied⟩

namespace Engine

/-- What the attribute side comes to, or that it never does. -/
def attributeSideOf (e : Engine) (world : World) (request : Request) : Side :=
  ((e.attributeResult world request).map Prod.snd).getD (.error .canceled)

/-! ## The table -/

theorem verdict_congr (e : Engine) {mode mode' : Mode}
    (h : mode.authoritative = mode'.authoritative) (attributeSide relationshipSide : Side) :
    e.verdict mode attributeSide relationshipSide =
      e.verdict mode' attributeSide relationshipSide := by
  simp only [verdict, h]

theorem verdict_error {e : Engine} {mode : Mode} {attributeSide relationshipSide : Side}
    {error : AuthzError} (h : e.verdict mode attributeSide relationshipSide = .error error) :
    (mode.authoritative = .attribute ∧ attributeSide = .error error) ∨
      (mode.authoritative = .relationship ∧ relationshipSide = .error error) := by
  unfold verdict at h
  rcases hm : mode.authoritative with _ | _
  · rw [hm] at h
    cases attributeSide with
    | ok decision => cases h
    | error own =>
      cases h
      exact .inl ⟨rfl, rfl⟩
  · rw [hm] at h
    cases relationshipSide with
    | ok decision => cases h
    | error outage =>
      refine .inr ⟨rfl, ?_⟩
      cases hf : e.fallback <;> cases attributeSide <;> rw [hf] at h <;> cases h <;> rfl

theorem decision_of_verdict {e : Engine} {mode : Mode} {attributeSide relationshipSide : Side} {r : Resolved}
    (h : e.verdict mode attributeSide relationshipSide = .ok r) :
    attributeSide = .ok r.decision ∨
      mode.authoritative = .relationship ∧ relationshipSide = .ok r.decision := by
  unfold verdict at h
  rcases hm : mode.authoritative with _ | _
  · rw [hm] at h
    cases attributeSide with
    | error error => cases h
    | ok decision =>
      cases h
      exact .inl rfl
  · rw [hm] at h
    cases relationshipSide with
    | ok decision =>
      cases h
      exact .inr ⟨rfl, rfl⟩
    | error outage =>
      cases hf : e.fallback <;> cases attributeSide <;> rw [hf] at h <;> cases h
      exact .inl rfl

theorem verdict_of_not_waiting {e : Engine} {world : World} {request : Request} {mode : Mode}
    (h : e.waitsForAttribute world request mode = false) (attributeSide : Side) :
    e.verdict mode attributeSide (e.relationshipResult world request) =
      (e.relationshipResult world request).map fun decision => ⟨decision, false⟩ := by
  cases mode with
  | attributeOnly => cases h
  | dualValidate => cases h
  | dualEnforceNew => cases h
  | relationshipOnly =>
    unfold waitsForAttribute at h
    unfold verdict
    cases hr : e.relationshipResult world request with
    | ok decision => rfl
    | error outage =>
      simp only [hr] at h
      rw [h]
      rfl

/-! ## Results of calls -/

section Calls

variable {e : Engine} {world : World} {policy : PolicySnapshot} {context : CallContext}
  {request : Request} {operation : Operation}

theorem value?_authorize
    (h : (e.authorize world policy context request operation).value? ≠ some (.error .canceled)) :
    (e.authorize world policy context request operation).value? =
      if e.waitsForAttribute world request (policy.policy.select request.tenant) then
        (e.attributeResult world request).map fun x =>
          returned (policy.policy.select request.tenant) policy.version
            (e.verdict (policy.policy.select request.tenant) x.2
              (e.relationshipResult world request))
      else
        some (returned (policy.policy.select request.tenant) policy.version
          ((e.relationshipResult world request).map fun decision => ⟨decision, false⟩)) := by
  rw [Run.value?, ending_authorize_of_not_canceled h, undisturbed, ending_resolve]
  cases e.waitsForAttribute world request (policy.policy.select request.tenant) with
  | true => cases e.attributeResult world request <;> rfl
  | false => rfl

theorem not_canceled_of_ok {outcome : Outcome}
    (h : (e.authorize world policy context request operation).value? = some (.ok outcome)) :
    (e.authorize world policy context request operation).value? ≠ some (.error .canceled) := by
  rw [h]
  exact fun hcanceled => nomatch hcanceled

/-- Whatever a call returns is the verdict on the two sides. -/
theorem eq_returned_verdict {x : Except AuthzError Outcome}
    (h : (e.authorize world policy context request operation).value? ≠ some (.error .canceled))
    (hx : (e.authorize world policy context request operation).value? = some x) :
    x = returned (policy.policy.select request.tenant) policy.version
      (e.verdict (policy.policy.select request.tenant) (e.attributeSideOf world request)
        (e.relationshipResult world request)) := by
  rw [value?_authorize h] at hx
  cases hw : e.waitsForAttribute world request (policy.policy.select request.tenant) with
  | true =>
    rw [hw, if_pos rfl] at hx
    obtain ⟨⟨t, side⟩, hside, rfl⟩ := Option.map_eq_some_iff.1 hx
    rw [attributeSideOf, hside]
    rfl
  | false =>
    rw [hw] at hx
    rw [verdict_of_not_waiting hw]
    exact (Option.some.inj hx).symm

end Calls

theorem resolved_returned (mode : Mode) (version : UInt64) (result : Except AuthzError Resolved) :
    (returned mode version result).map Outcome.resolved = result := by
  cases result <;> rfl

theorem error_of_returned {mode : Mode} {version : UInt64} {result : Except AuthzError Resolved}
    {error : AuthzError} (h : .error error = returned mode version result) :
    result = .error error := by
  rw [← resolved_returned mode version result, ← h]
  rfl

theorem isOutage_eq_false_of_attributeSideOf {e : Engine} {world : World} {request : Request}
    {error : AuthzError} (h : e.attributeSideOf world request = .error error) :
    error.isOutage = false := by
  unfold attributeSideOf at h
  cases ha : e.attributeResult world request with
  | none =>
    rw [ha] at h
    cases h
    rfl
  | some x =>
    obtain ⟨t, side⟩ := x
    rw [ha] at h
    obtain rfl : side = .error error := h
    obtain ⟨reason, rfl⟩ := fetchFailed_of_attributeResult ha
    rfl

/-- What a call returns unless it is canceled. Once the attribute side has a result, that is the
verdict on both sides. If it never has one, a call that waits for it never returns, and another
returns the relationship side. The attribute side fails only with a failed fetch and the
relationship side only with an outage, and each of these errors is returned only where its side is
authoritative. Calls with the same authoritative side come to the same. -/
theorem authorize_verdict (e : Engine) (world : World) (policy : PolicySnapshot)
    (context : CallContext) (request : Request) (operation : Operation) :
    let mode := policy.policy.select request.tenant
    let call := e.authorize world policy context request operation
    let r := e.relationshipResult world request
    (∀ t error, e.attributeResult world request = some (t, .error error) →
      ∃ reason, error = .fetchFailed reason) ∧
    (∀ error, r = .error error → error.isOutage = true) ∧
    (call.value? ≠ some (.error .canceled) →
      (∀ t a, e.attributeResult world request = some (t, a) →
        call.value? = some (returned mode policy.version (e.verdict mode a r))) ∧
      (e.attributeResult world request = none →
        call.value? =
          if e.waitsForAttribute world request mode then none
          else some (returned mode policy.version (r.map fun decision => ⟨decision, false⟩))) ∧
      (∀ reason, call.value? = some (.error (.fetchFailed reason)) →
        mode.authoritative = .attribute) ∧
      (∀ error, call.value? = some (.error error) → error.isOutage = true →
        mode.authoritative = .relationship) ∧
      ∀ policy' context' operation' x x',
        (policy'.policy.select request.tenant).authoritative = mode.authoritative →
        (e.authorize world policy' context' request operation').value? ≠
          some (.error .canceled) →
        call.value? = some x →
        (e.authorize world policy' context' request operation').value? = some x' →
        x.map Outcome.resolved = x'.map Outcome.resolved) := by
  intro mode call r
  refine ⟨fun t error => fetchFailed_of_attributeResult, fun error =>
    isOutage_of_relationshipResult, fun h => ⟨?_, ?_, ?_, ?_, ?_⟩⟩
  · intro t a ha
    rw [value?_authorize h, ha]
    cases hw : e.waitsForAttribute world request mode with
    | true => rfl
    | false =>
      rw [verdict_of_not_waiting hw]
      rfl
  · intro ha
    rw [value?_authorize h, ha]
    rfl
  · intro reason hreason
    rcases verdict_error (error_of_returned (eq_returned_verdict h hreason)) with
      ⟨hm, _⟩ | ⟨_, hr⟩
    · exact hm
    · cases isOutage_of_relationshipResult hr
  · intro error herror hout
    rcases verdict_error (error_of_returned (eq_returned_verdict h herror)) with
      ⟨_, ha⟩ | ⟨hm, _⟩
    · rw [isOutage_eq_false_of_attributeSideOf ha] at hout
      cases hout
    · exact hm
  · intro policy' context' operation' x x' hm h' hx hx'
    rw [eq_returned_verdict h hx, eq_returned_verdict h' hx', resolved_returned,
      resolved_returned, e.verdict_congr hm]

/-- The attribute decision stands in for an organization whose workspace cannot be found. -/
theorem authorize_verdict_of_fallback :
    let e : Engine :=
      ⟨.ofIds ["tasks", "remediations"], ⟨.standard, .ofMillis 500, .ofMillis 200⟩, true⟩
    let permissions : List Permission := [⟨"run:read", [.equal "service" "tasks"]⟩]
    let world : World :=
      ⟨.after 90 (.ok permissions),
        ⟨.asked (.after 40 (.error (.noWorkspace "1000"))), fun _ _ => .silent⟩⟩
    let policy : PolicySnapshot := ⟨.fixed .dualEnforceNew, 3⟩
    let request : Request := ⟨"alice", .user, "1000", "run:read"⟩
    let call := e.authorize world policy .background request .authorize
    call.value? ≠ some (.error .canceled) ∧
      call.value? = some (.ok
        ⟨(AttributeResolution.resolve permissions "run:read" e.catalog).decision,
          .dualEnforceNew, true, 3⟩) := by
  intro e permissions world policy request call
  have hreturns : call.value?.map Except.isOk = some true := by decide +kernel
  have huncanceled : call.value? ≠ some (.error .canceled) := by
    intro h
    rw [h] at hreturns
    cases hreturns
  have hlookup : e.relationships.workspaceInTime world.relationships =
      .error "no workspace for tenant '1000'" := by
    have hin : 40 ≤ e.relationships.lookupPatience.ticks := by decide +kernel
    simp only [RelationshipSide.workspaceInTime, world, Reply.within?, hin, if_true]
    rfl
  have hoffline : e.relationshipResult world request =
      .error (.lookupFailed "1000" "no workspace for tenant '1000'") := by
    rw [relationshipResult, RelationshipSide.conclusion, hlookup]
    rfl
  have hvalue := (((e.authorize_verdict world policy .background request .authorize).2.2
    huncanceled).1 90 _ rfl)
  rw [hoffline] at hvalue
  exact ⟨huncanceled, hvalue⟩

end Engine

end ScopedAccess
