import Mathlib.Data.List.Forall2
import ScopedAccess.Proofs.AttributeSide
import ScopedAccess.Proofs.Verdict

/-!
# ScopedAccess.Proofs.Degradation

The same call with worse answers.

* `Engine.Degrades`: in the second of two worlds some answers of the first are replaced by failures
  or come too late, and some filters are replaced by ones that cannot be read.
* `Decision.Within`: one decision opens no more than another.
* `resolve_within` and `relationshipResult_within`: each side opens no more in the degraded world.
* `degraded_call_opens_no_more`: neither does a call, unless the attribute decision may stand in for
  an outage.
-/

namespace ScopedAccess

theorem exists_of_mem_forall₂ {R : α → β → Prop} {as : List α} {bs : List β}
    (h : List.Forall₂ R as bs) {b : β} (hb : b ∈ bs) : ∃ a ∈ as, R a b := by
  induction h with
  | nil => cases hb
  | cons hab _ ih =>
    rcases List.mem_cons.1 hb with rfl | hb
    · exact ⟨_, List.mem_cons_self, hab⟩
    · obtain ⟨a, ha, hR⟩ := ih hb
      exact ⟨a, List.mem_cons_of_mem _ ha, hR⟩

/-- Some filters of a permission are replaced by ones that cannot be read, and some of them may be
gone as long as others stay. -/
structure Permission.Degrades (p q : Permission) : Prop where
  name : q.name = p.name
  readable : ∀ f ∈ q.filters, f.isRecognized = true → f ∈ p.filters
  kept : q.filters = [] → p.filters = []

theorem Permission.Degrades.of_replaced {name : String} {fs gs : List AttributeFilter}
    (h : List.Forall₂ (fun f g => g = f ∨ g.isRecognized = false) fs gs) :
    Permission.Degrades ⟨name, fs⟩ ⟨name, gs⟩ := by
  refine ⟨rfl, fun g hg hr => ?_, fun hgs => ?_⟩
  · obtain ⟨f, hf, rfl | hu⟩ := exists_of_mem_forall₂ h hg
    · exact hf
    · rw [hr] at hu
      cases hu
  · obtain rfl : gs = [] := hgs
    cases h
    rfl

/-- No success arrives within a limit. -/
def Reply.FailsWithin (limit : Nat) (r : Reply (Except ε α)) : Prop :=
  ∀ a, r.within? limit ≠ some (.ok a)

/-- An answer of the directory is replaced by a failure, stays away, or has filters replaced. -/
inductive FetchDegrades :
    Reply (Except DirectoryFault (List Permission)) →
      Reply (Except DirectoryFault (List Permission)) → Prop where
  | filters {ps qs : List Permission} (t : Nat) (h : List.Forall₂ Permission.Degrades ps qs) :
      FetchDegrades (.after t (.ok ps)) (.after t (.ok qs))
  | failed (r : Reply (Except DirectoryFault (List Permission))) (t : Nat)
      (fault : DirectoryFault) : FetchDegrades r (.after t (.error fault))
  | silent (r : Reply (Except DirectoryFault (List Permission))) : FetchDegrades r .silent

/-- Any answers of a world are replaced by failures or come too late, and any filters are replaced
by ones that cannot be read. -/
structure Engine.Degrades (e : Engine) (world world' : World) : Prop where
  permissions : FetchDegrades world.permissions world'.permissions
  workspace : world'.relationships.workspace = world.relationships.workspace ∨
    ∃ reply, world'.relationships.workspace = .asked reply ∧
      reply.FailsWithin e.relationships.lookupPatience.ticks
  check : ∀ target query,
    world'.relationships.check target query = world.relationships.check target query ∨
      (world'.relationships.check target query).FailsWithin e.relationships.checkPatience.ticks

namespace Decision

variable {catalog : Catalog} {d d' : Decision}

/-- A decision opens no more than another. -/
structure Within (catalog : Catalog) (d d' : Decision) : Prop where
  admits : ∀ service, d.admits service catalog = true → d'.admits service catalog = true
  unrestricted : d.isUnrestricted = true → d'.isUnrestricted = true

theorem Within.refl (catalog : Catalog) (d : Decision) : d.Within catalog d :=
  ⟨fun _ h => h, fun h => h⟩

theorem within_unrestricted (h : d'.access = .unrestricted) : d.Within catalog d' := by
  refine ⟨fun service hd => ?_, fun _ => by rw [isUnrestricted, h]⟩
  unfold admits at hd ⊢
  cases hr : catalog.resolve service with
  | none =>
    rw [hr] at hd
    cases hd
  | some id => rw [h]

theorem within_of_subset {services services' : NameSet} (h : d.access = .restricted services)
    (h' : d'.access = .restricted services') (hsub : ∀ id ∈ services, id ∈ services') :
    d.Within catalog d' := by
  refine ⟨fun service hd => ?_, fun hd => ?_⟩
  · unfold admits at hd ⊢
    cases hr : catalog.resolve service with
    | none =>
      rw [hr] at hd
      cases hd
    | some id =>
      simp only [hr, h, h', List.any_eq_true] at hd ⊢
      obtain ⟨s, hs, hkey⟩ := hd
      exact ⟨s, hsub s hs, hkey⟩
  · rw [isUnrestricted, h] at hd
    cases hd

end Decision

/-- A side opens no more than another. A side that failed opens nothing. -/
def Side.Within (catalog : Catalog) (s s' : Side) : Prop :=
  ∀ d, s = .ok d → ∃ d', s' = .ok d' ∧ d.Within catalog d'

namespace AttributeResolution

variable {ps qs : List Permission} {required : String} {catalog : Catalog}

theorem mem_matching {p : Permission} :
    p ∈ matching ps required ↔ p ∈ ps ∧ p.name = required := by
  rw [matching, List.mem_filter, beq_iff_eq]

theorem degraded_of_mem_matching (h : List.Forall₂ Permission.Degrades ps qs) {q : Permission}
    (hq : q ∈ matching qs required) : ∃ p ∈ matching ps required, p.Degrades q := by
  obtain ⟨hmem, hname⟩ := mem_matching.1 hq
  obtain ⟨p, hp, hpq⟩ := exists_of_mem_forall₂ h hmem
  exact ⟨p, mem_matching.2 ⟨hp, hpq.name ▸ hname⟩, hpq⟩

theorem mem_grantedValues {filters : List AttributeFilter} {v : String} :
    v ∈ grantedValues filters ↔ ∃ f ∈ filters, f.isOnServices = true ∧ v ∈ f.values := by
  simp only [grantedValues, List.mem_flatMap, List.mem_filter, and_assoc]

/-- Filters that cannot be read grant nothing, so what is granted was granted before. -/
theorem grantedValues_degraded (h : List.Forall₂ Permission.Degrades ps qs) {v : String}
    (hv : v ∈ grantedValues ((matching qs required).flatMap Permission.filters)) :
    v ∈ grantedValues ((matching ps required).flatMap Permission.filters) := by
  obtain ⟨f, hf, hservice, hvalue⟩ := mem_grantedValues.1 hv
  obtain ⟨q, hq, hfq⟩ := List.mem_flatMap.1 hf
  obtain ⟨p, hp, hpq⟩ := degraded_of_mem_matching h hq
  have hfp : f ∈ p.filters :=
    hpq.readable f hfq (AttributeFilter.isRecognized_of_isOnServices hservice)
  exact mem_grantedValues.2 ⟨f, List.mem_flatMap.2 ⟨p, hp, hfp⟩, hservice, hvalue⟩

theorem resolve_within (h : List.Forall₂ Permission.Degrades ps qs) (required : String)
    (catalog : Catalog) :
    (resolve qs required catalog).decision.Within catalog (resolve ps required catalog).decision := by
  by_cases hopen : ((matching ps required).any fun p => p.filters.isEmpty) = true
  · have hfound : ¬ (matching ps required).isEmpty = true := by
      obtain ⟨p, hp, _⟩ := List.any_eq_true.1 hopen
      simpa using List.ne_nil_of_mem hp
    refine Decision.within_unrestricted ?_
    rw [resolve, if_neg hfound, if_pos hopen]
    rfl
  · -- nothing is open, so no degraded entry is without filters either
    have hclosed : ¬ ((matching qs required).any fun q => q.filters.isEmpty) = true := by
      intro hq
      obtain ⟨q, hq, hnil⟩ := List.any_eq_true.1 hq
      obtain ⟨p, hp, hpq⟩ := degraded_of_mem_matching h hq
      refine hopen (List.any_eq_true.2 ⟨p, hp, ?_⟩)
      rw [List.isEmpty_iff] at hnil ⊢
      exact hpq.kept hnil
    by_cases hq : (matching qs required).isEmpty = true
    · have hdeny : (resolve qs required catalog).decision = .denyAll .attribute .noMatchingPermission := by
        rw [resolve, if_pos hq]
      obtain ⟨services, hservices⟩ : ∃ services,
          (resolve ps required catalog).decision.access = .restricted services := by
        rw [resolve]
        split
        · exact ⟨_, rfl⟩
        · exact ⟨_, rfl⟩
      rw [hdeny]
      exact Decision.within_of_subset rfl hservices fun id hid => absurd hid NameSet.mem_empty
    · have hp : ¬ (matching ps required).isEmpty = true := by
        obtain ⟨q, hmem⟩ := List.exists_mem_of_ne_nil _ fun hnil => hq (List.isEmpty_iff.2 hnil)
        obtain ⟨p, hp, _⟩ := degraded_of_mem_matching h hmem
        simpa using List.ne_nil_of_mem hp
      rw [resolve, if_neg hq, if_neg hclosed, resolve, if_neg hp, if_neg hopen]
      refine Decision.within_of_subset rfl rfl fun id hid => ?_
      rw [NameSet.mem_ofList, List.mem_filterMap] at hid ⊢
      obtain ⟨v, hv, hid⟩ := hid
      exact ⟨v, grantedValues_degraded h hv, hid⟩

end AttributeResolution

namespace Engine

variable {e : Engine} {world world' : World}

theorem attributeSideOf_within (h : FetchDegrades world.permissions world'.permissions)
    (request : Request) :
    (e.attributeSideOf world' request).Within e.catalog (e.attributeSideOf world request) := by
  intro d hd
  unfold attributeSideOf attributeResult at hd ⊢
  generalize world.permissions = r at h
  generalize world'.permissions = r' at h hd
  cases h with
  | filters t hps =>
    cases hd
    exact ⟨_, rfl, AttributeResolution.resolve_within hps _ _⟩
  | failed _ t fault => cases hd
  | silent => cases hd

theorem workspaceInTime_degraded (h : e.Degrades world world') {workspace : Workspace}
    (hw : e.relationships.workspaceInTime world'.relationships = .ok workspace) :
    e.relationships.workspaceInTime world.relationships = .ok workspace := by
  unfold RelationshipSide.workspaceInTime at hw ⊢
  rcases h.workspace with hsame | ⟨reply, hasked, hfails⟩
  · rwa [← hsame]
  · simp only [hasked] at hw
    split at hw
    · rename_i found hin
      exact absurd hin (hfails found)
    · cases hw
    · cases hw

theorem checkInTime_degraded (h : e.Degrades world world') {principal : Principal}
    {workspace : Workspace} {target : CheckTarget} {allowed : Bool}
    (hc : e.relationships.checkInTime world'.relationships principal workspace target =
      .ok allowed) :
    e.relationships.checkInTime world.relationships principal workspace target = .ok allowed := by
  unfold RelationshipSide.checkInTime at hc ⊢
  rcases h.check target ⟨workspace, principal, target.relation⟩ with hsame | hfails
  · rwa [← hsame]
  · cases hin : (world'.relationships.check target
        ⟨workspace, principal, target.relation⟩).within? e.relationships.checkPatience.ticks with
    | none =>
      rw [hin] at hc
      cases hc
    | some answer =>
      rw [hin] at hc
      obtain rfl : answer = .ok allowed := hc
      exact absurd hin (hfails allowed)

/-- An answer that allows something in the degraded world allows it in the other, and checks that
all fail in the other all fail in the degraded one. -/
theorem ofAnswers_within (s : RelationshipSide) (catalog : Catalog)
    {answer answer' : CheckTarget → Except CheckFault Bool}
    (h : ∀ t allowed, answer' t = .ok allowed → answer t = .ok allowed)
    {r' : RelationshipResolution}
    (hr' : RelationshipResolution.ofAnswers (s.answersOf catalog answer') = .ok r') :
    ∃ r, RelationshipResolution.ofAnswers (s.answersOf catalog answer) = .ok r ∧
      r'.decision.Within catalog r.decision := by
  by_cases horg : s.OrgAllows answer
  · exact ⟨_, s.ofAnswers_of_orgAllows catalog answer horg, Decision.within_unrestricted rfl⟩
  · have horg' : ¬ s.OrgAllows answer' := by
      rintro ⟨t, ht, hok⟩
      exact horg ⟨t, ht, h t true hok⟩
    have hout' : ¬ s.Outage catalog answer' := by
      intro hout'
      obtain ⟨_, _, _, _, _, herror⟩ := s.ofAnswers_of_outage catalog answer' horg' hout'
      rw [herror] at hr'
      cases hr'
    have hout : ¬ s.Outage catalog answer := by
      rintro ⟨hne, hall⟩
      refine hout' ⟨hne, fun id hid => ?_⟩
      obtain ⟨fault, hfault⟩ := hall id hid
      cases ha : answer' (s.serviceTarget id) with
      | error fault' => exact ⟨fault', rfl⟩
      | ok allowed =>
        have hok := h _ _ ha
        rw [hfault] at hok
        cases hok
    obtain ⟨d, hd, hopens⟩ := s.ofAnswers_of_services catalog answer horg hout
    obtain ⟨d', hd', hopens'⟩ := s.ofAnswers_of_services catalog answer' horg' hout'
    rw [hd'] at hr'
    cases hr'
    obtain ⟨services, haccess, hmem⟩ := hopens.opens
    obtain ⟨services', haccess', hmem'⟩ := hopens'.opens
    refine ⟨_, hd, Decision.within_of_subset haccess' haccess fun id hid => ?_⟩
    obtain ⟨hid, hok⟩ := (hmem' id).1 hid
    exact (hmem id).2 ⟨hid, h _ _ hok⟩

theorem relationshipResult_within (h : e.Degrades world world') (request : Request) :
    (e.relationshipResult world' request).Within e.catalog
      (e.relationshipResult world request) := by
  intro d hd
  obtain ⟨r', hr', rfl⟩ := conclusion_of_relationshipResult hd
  obtain ⟨workspace, hw, _⟩ := RelationshipSide.cases_of_conclusion hr'
  rw [RelationshipSide.conclusion_of_workspace hw] at hr'
  obtain ⟨r, hr, hwithin⟩ := ofAnswers_within e.relationships e.catalog
    (fun t allowed => checkInTime_degraded h) hr'
  refine ⟨r.decision, ?_, hwithin⟩
  rw [relationshipResult, RelationshipSide.conclusion_of_workspace (workspaceInTime_degraded h hw),
    hr]
  rfl

/-- Without fallback the verdict is the authoritative side's. -/
theorem verdict_within (hf : e.fallback = false) (mode : Mode) {a a' r r' : Side}
    (ha : a'.Within e.catalog a) (hr : r'.Within e.catalog r) {v' : Resolved}
    (hv' : e.verdict mode a' r' = .ok v') :
    ∃ v, e.verdict mode a r = .ok v ∧ v'.decision.Within e.catalog v.decision := by
  unfold verdict at hv' ⊢
  rcases hm : mode.authoritative with _ | _
  · rw [hm] at hv'
    cases a' with
    | error error => cases hv'
    | ok d' =>
      cases hv'
      obtain ⟨d, rfl, hwithin⟩ := ha d' rfl
      exact ⟨_, rfl, hwithin⟩
  · rw [hm] at hv'
    cases r' with
    | error error =>
      rw [hf] at hv'
      cases hv'
    | ok d' =>
      cases hv'
      obtain ⟨d, rfl, hwithin⟩ := hr d' rfl
      exact ⟨_, rfl, hwithin⟩

theorem silent_of_value?_none {policy : PolicySnapshot} {context : CallContext}
    {request : Request} {operation : Operation}
    (h : (e.authorize world policy context request operation).value? = none) :
    world.permissions = .silent := by
  rw [value?_authorize (by rw [h]; exact nofun)] at h
  split at h
  · rw [Option.map_eq_none_iff, attributeResult, Option.map_eq_none_iff] at h
    cases hp : world.permissions with
    | silent => rfl
    | after t answer =>
      rw [hp] at h
      cases h
  · cases h

/-- Where the attribute decision may not stand in for an outage, a call whose services fail, are late
or send filters that cannot be read opens no service it would not open with their own answers, and
leaves access unrestricted only if it would do so with them. An error opens nothing. Both calls
return unless the directory never answers. -/
theorem degraded_call_opens_no_more (hf : e.fallback = false) (h : e.Degrades world world')
    (policy : PolicySnapshot) (context : CallContext) (request : Request)
    (operation : Operation) :
    let call := e.authorize world policy context request operation
    let degraded := e.authorize world' policy context request operation
    call.value? ≠ some (.error .canceled) → degraded.value? ≠ some (.error .canceled) →
      (∀ x x', call.value? = some x → degraded.value? = some x' →
        (∀ service, e.admits service x' = .ok true → e.admits service x = .ok true) ∧
        ∀ o', x' = .ok o' → o'.decision.isUnrestricted = true →
          ∃ o, x = .ok o ∧ o.decision.isUnrestricted = true) ∧
      (call.value? = none → world.permissions = .silent) ∧
      (degraded.value? = none → world'.permissions = .silent) := by
  intro call degraded hcall hdegraded
  refine ⟨fun x x' hx hx' => ?_, silent_of_value?_none, silent_of_value?_none⟩
  have hopens : ∀ o', x' = .ok o' →
      ∃ o, x = .ok o ∧ o'.decision.Within e.catalog o.decision := by
    rintro o' rfl
    have hreturned := eq_returned_verdict hdegraded hx'
    rw [eq_returned_verdict hcall hx]
    cases hv' : e.verdict (policy.policy.select request.tenant) (e.attributeSideOf world' request)
        (e.relationshipResult world' request) with
    | error error =>
      rw [hv'] at hreturned
      cases hreturned
    | ok v' =>
      rw [hv'] at hreturned
      cases hreturned
      obtain ⟨v, hv, hwithin⟩ := verdict_within hf _ (attributeSideOf_within h.permissions request)
        (relationshipResult_within h request) hv'
      exact ⟨_, by rw [hv]; rfl, hwithin⟩
  refine ⟨fun service hadmits => ?_, fun o' ho' hunrestricted => ?_⟩
  · cases x' with
    | error error => cases hadmits
    | ok o' =>
      obtain ⟨o, rfl, hwithin⟩ := hopens o' rfl
      exact congrArg Except.ok (hwithin.admits service (Except.ok.inj hadmits))
  · obtain ⟨o, rfl, hwithin⟩ := hopens o' ho'
    exact ⟨o, rfl, hwithin.unrestricted hunrestricted⟩

/-- The organization's check and one of two services' stay away, and one of two filters cannot be
read any more. -/
theorem degraded_call_opens_no_more_of_silent_checks :
    let e : Engine :=
      ⟨.ofIds ["tasks", "remediations"], ⟨.standard, .ofMillis 500, .ofMillis 200⟩, false⟩
    let tasks : AttributeFilter := .equal "service" "tasks"
    let remediations : AttributeFilter := .equal "service" "remediations"
    let world : World :=
      ⟨.after 5 (.ok [⟨"run:read", [tasks, remediations]⟩]),
        ⟨.asked (.after 40 (.ok ⟨"ws-1"⟩)), fun t _ => .after 10 (.ok t.service.isSome)⟩⟩
    let world' : World :=
      ⟨.after 5 (.ok [⟨"run:read", [.unrecognized, remediations]⟩]),
        ⟨.asked (.after 40 (.ok ⟨"ws-1"⟩)), fun t _ =>
          if t.service = some "remediations" then .after 10 (.ok true) else .silent⟩⟩
    let policy : PolicySnapshot := ⟨.fixed .dualEnforceNew, 1⟩
    let request : Request := ⟨"alice", .user, "1000", "run:read"⟩
    let call := e.authorize world policy .background request .authorize
    let degraded := e.authorize world' policy .background request .authorize
    e.fallback = false ∧ e.Degrades world world' ∧
      call.value? ≠ some (.error .canceled) ∧ degraded.value? ≠ some (.error .canceled) ∧
      degraded.value?.map (e.admits "tasks") = some (.ok false) ∧
      degraded.value?.map (e.admits "remediations") = some (.ok true) ∧
      call.value?.map (e.admits "remediations") = some (.ok true) := by
  intro e tasks remediations world world' policy request call degraded
  have hdegrades : e.Degrades world world' := by
    refine ⟨.filters 5 (.cons (.of_replaced ?_) .nil), .inl rfl, fun t query => ?_⟩
    · exact .cons (.inr rfl) (.cons (.inl rfl) .nil)
    · by_cases ht : t.service = some "remediations"
      · exact .inl (by simp [world, world', ht])
      · refine .inr fun allowed hin => ?_
        simp [world', ht, Reply.within?] at hin
  have hok : call.value?.map Except.isOk = some true := by decide +kernel
  have hok' : degraded.value?.map Except.isOk = some true := by decide +kernel
  have hcall : call.value? ≠ some (.error .canceled) := by
    intro h
    rw [h] at hok
    cases hok
  have hdegraded : degraded.value? ≠ some (.error .canceled) := by
    intro h
    rw [h] at hok'
    cases hok'
  have htasks : degraded.value?.map (e.admits "tasks") = some (.ok false) := by decide +kernel
  have hremediations : degraded.value?.map (e.admits "remediations") = some (.ok true) := by
    decide +kernel
  obtain ⟨x, hx, _⟩ := Option.map_eq_some_iff.1 hok
  obtain ⟨x', hx', hadmits⟩ := Option.map_eq_some_iff.1 hremediations
  have hopens := (degraded_call_opens_no_more rfl hdegrades policy .background request .authorize
    hcall hdegraded).1 x x' hx hx'
  refine ⟨rfl, hdegrades, hcall, hdegraded, htasks, hremediations, ?_⟩
  rw [hx, Option.map_some, hopens.1 "remediations" hadmits]

end Engine

end ScopedAccess
