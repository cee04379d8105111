import Mathlib.Data.List.Nodup
import ScopedAccess.Proofs.AttributeSide
import ScopedAccess.Proofs.Catalog
import ScopedAccess.Proofs.Queries

/-!
# ScopedAccess.Proofs.Outcome

What can be relied on in every decision that a call returns.

* `Decision.WellFormed`: unrestricted without a reason, or restricted to services of the catalog
  with a reason of its source exactly if there are none.
* `RestrictsTo.wellFormed`: both models only make such decisions.
* `answered_of_denyAll`: the relationship model opens nothing only if a service check was answered.
* `outcome_wellFormed`: so it is for calls in every mode.
-/

namespace ScopedAccess

/-- The model that gives a reason. -/
def DenyReason.source : DenyReason → Source
  | .noMatchingPermission => .attribute
  | .emptyServiceScope => .attribute
  | .noRelationshipGrant => .relationship

namespace Decision

/-- The decision opens these services of a catalog, and gives a reason exactly if there are none. -/
structure OpensOnly (d : Decision) (catalog : Catalog) (services : NameSet) : Prop where
  access : d.access = .restricted services
  listed : ∀ id ∈ services, id ∈ catalog.ids
  distinct : (services.toList.map serviceKey).Nodup
  denied : d.denyReason.isSome = true ↔ services.isEmpty = true
  reason : ∀ reason, d.denyReason = some reason → reason.source = d.source

inductive WellFormed (catalog : Catalog) (d : Decision) : Prop where
  | unrestricted (access : d.access = .unrestricted) (reason : d.denyReason = none)
  | restricted (services : NameSet) (opens : d.OpensOnly catalog services)

variable {catalog : Catalog} {d : Decision} {source : Source} {granted : String → Prop}
  {reason : DenyReason}

theorem nodup_keys {services : NameSet} (h : ∀ id ∈ services, id ∈ catalog.ids) :
    (services.toList.map serviceKey).Nodup := by
  have hids : services.toList.Nodup :=
    services.increasing.imp fun hlt he => by
      rw [he] at hlt
      exact String.lt_irrefl _ hlt
  refine hids.map_on fun a ha b hb hkey => ?_
  exact Catalog.eq_of_serviceKey_eq (h a ha) (h b hb) hkey

theorem RestrictsTo.wellFormed (h : d.RestrictsTo source granted reason)
    (hreason : reason.source = source) (hlisted : ∀ id, granted id → id ∈ catalog.ids) :
    d.WellFormed catalog := by
  obtain ⟨services, haccess, hopens⟩ := h.opens
  have hservices : ∀ id ∈ services, id ∈ catalog.ids := fun id hid => hlisted id ((hopens id).1 hid)
  have hempty : services.isEmpty = true ↔ ∀ id, ¬ granted id := by
    rw [NameSet.isEmpty_iff]
    exact forall_congr' fun id => not_congr (hopens id)
  refine .restricted services ⟨haccess, hservices, nodup_keys hservices, ?_, fun own hown => ?_⟩
  · rw [hempty, ← h.denied]
    cases hd : d.denyReason with
    | none => simp
    | some own =>
      -- a decision that gives any reason opens nothing, and so it gives this one
      have hnone : ∀ id, ¬ granted id := fun id hid => by
        rw [h.allowed.2 ⟨id, hid⟩] at hd
        cases hd
      rw [h.denied.2 hnone] at hd
      simp [hd]
  · have hnone : ∀ id, ¬ granted id := fun id hid => by
      rw [h.allowed.2 ⟨id, hid⟩] at hown
      cases hown
    rw [h.denied.2 hnone] at hown
    cases hown
    rw [hreason, h.fromSource]

end Decision

namespace AttributeResolution

theorem wellFormed_resolve (permissions : List Permission) (required : String)
    (catalog : Catalog) :
    (resolve permissions required catalog).decision.WellFormed catalog ∧
      (resolve permissions required catalog).decision.source = .attribute := by
  simp only [resolve]
  split
  · have hnothing : (Decision.denyAll .attribute .noMatchingPermission).RestrictsTo .attribute
        (fun _ => False) .noMatchingPermission :=
      Decision.restricted_restrictsTo _ _ fun id => iff_false_intro NameSet.mem_empty
    exact ⟨hnothing.wellFormed rfl fun _ h => h.elim, rfl⟩
  · split
    · exact ⟨.unrestricted rfl rfl, rfl⟩
    · refine ⟨(ofFilters_restrictsTo _ catalog).wellFormed rfl fun id h => ?_, rfl⟩
      obtain ⟨v, _, hid⟩ := h
      exact List.mem_of_find?_eq_some hid

end AttributeResolution

namespace RelationshipSide

variable {s : RelationshipSide} {world : RelationshipWorld} {principal : Principal}
  {tenant : String} {catalog : Catalog} {r : RelationshipResolution}

theorem wellFormed_conclusion (h : s.conclusion world principal tenant catalog = .ok r) :
    r.decision.WellFormed catalog ∧ r.decision.source = .relationship := by
  obtain ⟨workspace, _, hopen | ⟨_, hrestricts⟩⟩ := cases_of_conclusion h
  · rw [hopen]
    exact ⟨.unrestricted rfl rfl, rfl⟩
  · exact ⟨hrestricts.wellFormed rfl fun id hid => hid.1, hrestricts.fromSource⟩

theorem answer_of_checkInTime {workspace : Workspace} {target : CheckTarget} {allowed : Bool}
    (h : s.checkInTime world principal workspace target = .ok allowed) :
    ∃ t ≤ s.checkPatience.ticks,
      world.check target ⟨workspace, principal, target.relation⟩ = .after t (.ok allowed) := by
  unfold checkInTime at h
  cases hr : world.check target ⟨workspace, principal, target.relation⟩ with
  | silent =>
    rw [hr] at h
    cases h
  | after t answer =>
    by_cases ht : t ≤ s.checkPatience.ticks
    · rw [hr, Reply.within?, if_pos ht] at h
      obtain rfl : answer = .ok allowed := h
      exact ⟨t, ht, rfl⟩
    · rw [hr, Reply.within?, if_neg ht] at h
      cases h

/-- A resolution opens nothing only if one of its service checks was answered, and denied. -/
theorem answered_of_denyAll (h : s.conclusion world principal tenant catalog = .ok r)
    (hcatalog : catalog.ids ≠ []) (hdeny : r.decision.isDenyAll = true) :
    ∃ workspace, s.workspaceInTime world = .ok workspace ∧ ∃ id ∈ catalog.ids,
      s.checkInTime world principal workspace (s.serviceTarget id) = .ok false := by
  obtain ⟨workspace, hw, hopen | ⟨hout, hrestricts⟩⟩ := cases_of_conclusion h
  · rw [hopen] at hdeny
    cases hdeny
  · obtain ⟨services, haccess, hopens⟩ := hrestricts.opens
    rw [Decision.isDenyAll, haccess] at hdeny
    refine ⟨workspace, hw, Classical.byContradiction fun hnone => hout ⟨hcatalog, ?_⟩⟩
    intro id hid
    cases ha : s.checkInTime world principal workspace (s.serviceTarget id) with
    | error fault => exact ⟨fault, rfl⟩
    | ok allowed =>
      cases allowed with
      | false => exact absurd ⟨id, hid, ha⟩ hnone
      | true => exact absurd ((hopens id).2 ⟨hid, ha⟩) (NameSet.isEmpty_iff.1 hdeny id)

end RelationshipSide

namespace Engine

variable {e : Engine} {world : World} {policy : PolicySnapshot} {context : CallContext}
  {request : Request} {operation : Operation}

theorem wellFormed_attributeSideOf {decision : Decision}
    (h : e.attributeSideOf world request = .ok decision) :
    decision.WellFormed e.catalog ∧ decision.source = .attribute := by
  unfold attributeSideOf at h
  cases ha : e.attributeResult world request with
  | none =>
    rw [ha] at h
    cases h
  | some x =>
    rw [ha] at h
    obtain ⟨⟨t, answer⟩, _, rfl⟩ := Option.map_eq_some_iff.1 ha
    cases answer with
    | error fault => cases h
    | ok permissions =>
      cases h
      exact AttributeResolution.wellFormed_resolve permissions request.permission e.catalog

/-- A decision that is returned is one of the attribute side, or one of the relationship side where
that is authoritative. -/
theorem decision_of_authorize {outcome : Outcome}
    (h : (e.authorize world policy context request operation).value? = some (.ok outcome)) :
    e.attributeSideOf world request = .ok outcome.decision ∨
      (policy.policy.select request.tenant).authoritative = .relationship ∧
        e.relationshipResult world request = .ok outcome.decision := by
  have hreturned := eq_returned_verdict (not_canceled_of_ok h) h
  cases hv : e.verdict (policy.policy.select request.tenant) (e.attributeSideOf world request)
      (e.relationshipResult world request) with
  | error error =>
    rw [hv] at hreturned
    cases hreturned
  | ok resolved =>
    rw [hv] at hreturned
    have hdecision : outcome.decision = resolved.decision :=
      congrArg Outcome.decision (Except.ok.inj hreturned)
    rw [hdecision]
    exact decision_of_verdict hv

/-- Every decision that a call returns is well formed, and one of the relationship model opens
nothing only if the call has checked a service and was answered. -/
theorem outcome_wellFormed {outcome : Outcome}
    (h : (e.authorize world policy context request operation).value? = some (.ok outcome)) :
    outcome.decision.WellFormed e.catalog ∧
      (e.catalog.ids ≠ [] → outcome.decision.source = .relationship →
        outcome.decision.isDenyAll = true →
        ∃ workspace, ∃ id ∈ e.catalog.ids, ∃ t ≤ e.relationships.checkPatience.ticks,
          let target := e.relationships.serviceTarget id
          let query : CheckQuery := ⟨workspace, request.principal, target.relation⟩
          .check query ∈ (e.authorize world policy context request operation).effects ∧
            world.relationships.check target query = .after t (.ok false)) := by
  rcases decision_of_authorize h with hattribute | ⟨hm, hrelationship⟩
  · obtain ⟨hwell, hsource⟩ := wellFormed_attributeSideOf hattribute
    exact ⟨hwell, fun _ hother => nomatch hsource.symm.trans hother⟩
  · obtain ⟨r, hr, hdecision⟩ := conclusion_of_relationshipResult hrelationship
    rw [← hdecision]
    refine ⟨(RelationshipSide.wellFormed_conclusion hr).1, fun hcatalog _ hdeny => ?_⟩
    obtain ⟨workspace, hw, id, hid, hanswer⟩ :=
      RelationshipSide.answered_of_denyAll hr hcatalog hdeny
    obtain ⟨t, ht, hcheck⟩ := RelationshipSide.answer_of_checkInTime hanswer
    refine ⟨workspace, id, hid, t, ht, ?_, hcheck⟩
    -- a call that was not canceled has made all its checks
    have hasks : policy.policy.select request.tenant ≠ .attributeOnly := fun hmode => by
      rw [hmode] at hm
      cases hm
    refine check_of_mem_queries (resolvesInTime_of_not_canceled (not_canceled_of_ok h) hasks)
      hasks ?_
    rw [RelationshipSide.queries_of_workspace _ _ _ _ _ hw]
    exact List.mem_map_of_mem (List.mem_append_right _ (List.mem_map_of_mem hid))

/-- One check is denied and the other stays without answer. -/
theorem outcome_wellFormed_of_denied_check :
    let e : Engine :=
      ⟨.ofIds ["tasks", "remediations"], ⟨.standard, .ofMillis 500, .ofMillis 200⟩, true⟩
    let world : World :=
      ⟨.silent,
        ⟨.asked (.after 40 (.ok ⟨"ws-1"⟩)), fun t _ =>
          if t.service = some "tasks" then .after 10 (.ok false) else .silent⟩⟩
    let request : Request := ⟨"alice", .user, "1000", "run:read"⟩
    let call := e.authorize world ⟨.fixed .relationshipOnly, 1⟩ .background request .authorize
    let decision : Decision := ⟨.relationship, .restricted ∅, some .noRelationshipGrant⟩
    call.value? = some (.ok ⟨decision, .relationshipOnly, false, 1⟩) ∧
      decision.WellFormed e.catalog ∧
      ∃ workspace, ∃ id ∈ e.catalog.ids,
        .check ⟨workspace, request.principal, e.relationships.naming.relationFor id⟩ ∈
          call.effects := by
  intro e world request call decision
  have hvalue : call.value? = some (.ok ⟨decision, .relationshipOnly, false, 1⟩) := by
    have hreturned : (call.value?.bind Except.toOption) =
        some ⟨decision, .relationshipOnly, false, 1⟩ := by decide +kernel
    obtain ⟨result, hresult, hok⟩ := Option.bind_eq_some_iff.1 hreturned
    cases result with
    | error error => cases hok
    | ok outcome =>
      cases hok
      exact hresult
  obtain ⟨hwell, hanswered⟩ := outcome_wellFormed hvalue
  obtain ⟨workspace, id, hid, _, _, hcheck, _⟩ := hanswered (by decide +kernel) rfl rfl
  exact ⟨hvalue, hwell, workspace, id, hid, hcheck⟩

end Engine

end ScopedAccess
