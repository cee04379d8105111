import ScopedAccess.Proofs.Decision
import ScopedAccess.Proofs.Timeline
import ScopedAccess.RelationshipSide

/-!
# ScopedAccess.Proofs.RelationshipSide

What a relationship resolution comes to, said of its lookup and its checks one by one.

* `workspaceInTime` and `checkInTime` are the answers as far as they arrive in time.
* `resolve_ending`: a resolution always ends, with the conclusion from these answers, once the last
  of them is there or given up.
* `resolution_exact`: the conclusion, case by case.
-/

namespace ScopedAccess

def Effect.isCheck : Effect → Bool
  | check _ => true
  | _ => false

namespace CheckAnswer

theorem allows_iff {a : CheckAnswer} : a.allows = true ↔ a.answer = .ok true := by
  unfold allows
  cases a.answer <;> simp

theorem failed_iff {a : CheckAnswer} : a.failed = true ↔ ∃ fault, a.answer = .error fault := by
  unfold failed failure?
  cases a.answer <;> simp

theorem grant?_eq_some {a : CheckAnswer} {id : String} :
    a.grant? = some id ↔ a.answer = .ok true ∧ a.target.service = some id := by
  rw [grant?, ← allows_iff]
  cases a.allows <;> simp

end CheckAnswer

/-- The failure of a check that fails under given answers. -/
def CheckTarget.failure? (answer : CheckTarget → Except CheckFault Bool) (t : CheckTarget) :
    Option CheckFailure :=
  (CheckAnswer.mk t (answer t)).failure?

theorem CheckTarget.target_of_failure? {answer : CheckTarget → Except CheckFault Bool}
    {t : CheckTarget} {f : CheckFailure} (h : t.failure? answer = some f) : f.target = t := by
  unfold failure? CheckAnswer.failure? at h
  cases ha : answer t with
  | ok allowed => simp [ha] at h
  | error fault =>
    simp only [ha, Option.some.injEq] at h
    rw [← h]

namespace RelationshipSide

/-- The workspace of a tenant, or the text of why it is not known in time. -/
def workspaceInTime (s : RelationshipSide) (world : RelationshipWorld) : Except String Workspace :=
  match world.workspace with
  | .remembered workspace => .ok workspace
  | .asked reply =>
    match reply.within? s.lookupPatience.ticks with
    | some (.ok workspace) => .ok workspace
    | some (.error fault) => .error fault.message
    | none => .error ("timed out after " ++ Text.Decimal.text s.lookupPatience.wholeMillis ++ "ms")

def lookupInstant (s : RelationshipSide) (world : RelationshipWorld) : Nat :=
  match world.workspace with
  | .remembered _ => 0
  | .asked reply => reply.waited s.lookupPatience.ticks

/-- The answer to a check. One that does not arrive in time is a fault. -/
def checkInTime (s : RelationshipSide) (world : RelationshipWorld) (principal : Principal)
    (workspace : Workspace) (target : CheckTarget) : Except CheckFault Bool :=
  ((world.check target ⟨workspace, principal, target.relation⟩).within? s.checkPatience.ticks).getD
    (.error (.timedOut s.checkPatience.wholeMillis))

def checkInstant (s : RelationshipSide) (world : RelationshipWorld) (principal : Principal)
    (workspace : Workspace) (target : CheckTarget) : Nat :=
  (world.check target ⟨workspace, principal, target.relation⟩).waited s.checkPatience.ticks

def answersOf (s : RelationshipSide) (catalog : Catalog)
    (answer : CheckTarget → Except CheckFault Bool) : List CheckAnswer :=
  (s.targets catalog).map fun t => ⟨t, answer t⟩

/-- What a resolution comes to. -/
def conclusion (s : RelationshipSide) (world : RelationshipWorld) (principal : Principal)
    (tenant : String) (catalog : Catalog) : Except AuthzError RelationshipResolution :=
  match s.workspaceInTime world with
  | .error reason => .error (.lookupFailed tenant reason)
  | .ok workspace =>
    RelationshipResolution.ofAnswers
      (s.answersOf catalog (s.checkInTime world principal workspace))

/-- When a resolution is over. -/
def resolveInstant (s : RelationshipSide) (world : RelationshipWorld) (principal : Principal)
    (catalog : Catalog) : Nat :=
  s.lookupInstant world +
    match s.workspaceInTime world with
    | .error _ => 0
    | .ok workspace =>
      ((s.targets catalog).map (s.checkInstant world principal workspace)).foldr max 0

/-! ## Endings -/

theorem ending_ask (tenant : String) (reply : Reply (Except LookupFault Workspace)) :
    (WorkspaceAnswer.ask tenant reply).ending = reply.ending := by
  cases reply with
  | silent => rfl
  | after t answer =>
    cases answer with
    | ok workspace =>
      simp [WorkspaceAnswer.ask, Run.ending_andThen, Run.ending_await, Run.ending_map,
        Reply.ending, Run.emit]
    | error fault =>
      simp [WorkspaceAnswer.ask, Run.ending_andThen, Run.ending_await, Reply.ending, Run.emit,
        Run.done]

theorem ending_findWorkspace (s : RelationshipSide) (world : RelationshipWorld)
    (tenant : String) :
    (s.findWorkspace world tenant).ending =
      some (s.lookupInstant world, (s.workspaceInTime world).mapError (.lookupFailed tenant)) := by
  unfold findWorkspace lookupInstant workspaceInTime
  cases world.workspace with
  | remembered workspace =>
    rw [Run.ending_within rfl, if_pos (Nat.zero_le _)]
    rfl
  | asked reply =>
    have h : ((WorkspaceAnswer.ask tenant reply).map (lookupResult tenant)).ending =
        reply.ending.map fun x => (x.1, lookupResult tenant x.2) := by
      rw [Run.ending_map, ending_ask]
    simp only [WorkspaceAnswer.obtain, Run.ending_asked h]
    cases reply.within? s.lookupPatience.ticks with
    | none => rfl
    | some answer => cases answer <;> rfl

theorem ending_runCheck (s : RelationshipSide) (world : RelationshipWorld) (principal : Principal)
    (workspace : Workspace) (target : CheckTarget) :
    (s.runCheck world principal workspace target).ending =
      some (s.checkInstant world principal workspace target,
        ⟨target, s.checkInTime world principal workspace target⟩) := by
  let query : CheckQuery := ⟨workspace, principal, target.relation⟩
  have h : ((Run.emit (.check query) : Run Effect Unit).andThen fun _ =>
      Run.await (world.check target query)).ending =
        (world.check target query).ending.map fun x => (x.1, id x.2) := by
    rw [Run.ending_andThen]
    simp [Run.emit, Run.ending_await]
  simp only [runCheck, Run.ending_map, checkInstant, checkInTime, query, Run.ending_asked h,
    Option.map_some, Option.map_id, id_eq]

theorem ending_runChecks (s : RelationshipSide) (world : RelationshipWorld)
    (principal : Principal) (catalog : Catalog) (workspace : Workspace) :
    (s.runChecks world principal catalog workspace).ending =
      some (((s.targets catalog).map (s.checkInstant world principal workspace)).foldr max 0,
        RelationshipResolution.ofAnswers
          (s.answersOf catalog (s.checkInTime world principal workspace))) := by
  have hall := Run.ending_all (s.runCheck world principal workspace)
    (s.checkInstant world principal workspace)
    (fun t => ⟨t, s.checkInTime world principal workspace t⟩) (s.targets catalog)
    fun t _ => s.ending_runCheck world principal workspace t
  rw [runChecks, Run.ending_andThen, hall]
  rfl

/-- A resolution always ends, once the last answer it waits for is there or given up. -/
theorem resolve_ending (s : RelationshipSide) (world : RelationshipWorld) (principal : Principal)
    (tenant : String) (catalog : Catalog) :
    (s.resolve world principal tenant catalog).ending =
      some (s.resolveInstant world principal catalog,
        s.conclusion world principal tenant catalog) := by
  rw [resolve, Run.ending_andThen, ending_findWorkspace, resolveInstant, conclusion]
  cases s.workspaceInTime world with
  | error reason => rfl
  | ok workspace =>
    show (s.runChecks world principal catalog workspace).ending.map
      (fun y => (s.lookupInstant world + y.1, y.2)) = _
    rw [ending_runChecks]
    rfl

/-! ## Order -/

theorem orderly_findWorkspace (s : RelationshipSide) (world : RelationshipWorld)
    (tenant : String) : (s.findWorkspace world tenant).Orderly := by
  refine Run.Orderly.within (Run.Orderly.map ?_ _) _ _
  cases world.workspace with
  | remembered workspace => exact .done _
  | asked reply =>
    refine .andThen (.emit _) fun _ => .andThen (.await reply) fun answer => ?_
    cases answer with
    | ok workspace => exact .map (.emit _) _
    | error fault => exact .done _

theorem orderly_resolve (s : RelationshipSide) (world : RelationshipWorld) (principal : Principal)
    (tenant : String) (catalog : Catalog) :
    (s.resolve world principal tenant catalog).Orderly := by
  refine (s.orderly_findWorkspace world tenant).andThen fun found => ?_
  cases found with
  | error error => exact .done _
  | ok workspace =>
    refine .andThen (.all fun r hr => ?_) fun answers => .map (.emitAll _) _
    obtain ⟨target, _, rfl⟩ := List.mem_map.1 hr
    exact .map (.within (.andThen (.emit _) fun _ => .await _) _ _) _

/-! ## Conclusions -/

def orgTarget? (s : RelationshipSide) : Option CheckTarget :=
  s.naming.orgRelation.map fun relation => ⟨none, relation⟩

def serviceTarget (s : RelationshipSide) (id : String) : CheckTarget :=
  ⟨some id, s.naming.relationFor id⟩

/-- The failed checks of a resolution, the organization's first and then in catalog order. -/
def failures (s : RelationshipSide) (catalog : Catalog)
    (answer : CheckTarget → Except CheckFault Bool) : List CheckFailure :=
  (s.orgTarget?.toList ++ catalog.ids.map s.serviceTarget).filterMap (CheckTarget.failure? answer)

theorem targets_eq (s : RelationshipSide) (catalog : Catalog) :
    s.targets catalog = s.orgTarget?.toList ++ catalog.ids.map s.serviceTarget := rfl

/-- Whether the check for the organization was made and failed. -/
def orgFails (s : RelationshipSide) (answer : CheckTarget → Except CheckFault Bool) : Bool :=
  s.orgTarget?.any fun t => (t.failure? answer).isSome

/-- The organization was granted access. -/
def OrgAllows (s : RelationshipSide) (answer : CheckTarget → Except CheckFault Bool) : Prop :=
  ∃ t, s.orgTarget? = some t ∧ answer t = .ok true

/-- There are services, and the checks of all of them failed. -/
def Outage (s : RelationshipSide) (catalog : Catalog)
    (answer : CheckTarget → Except CheckFault Bool) : Prop :=
  catalog.ids ≠ [] ∧ ∀ id ∈ catalog.ids, ∃ fault, answer (s.serviceTarget id) = .error fault

section Answers

variable (s : RelationshipSide) (catalog : Catalog) (answer : CheckTarget → Except CheckFault Bool)

theorem failuresOf_answersOf :
    RelationshipResolution.failuresOf (s.answersOf catalog answer) = s.failures catalog answer := by
  rw [RelationshipResolution.failuresOf, answersOf, List.filterMap_map]
  rfl

theorem ofServices_answersOf :
    RelationshipResolution.ofServices (s.answersOf catalog answer) =
      catalog.ids.map fun id => ⟨s.serviceTarget id, answer (s.serviceTarget id)⟩ := by
  have horg : (s.orgTarget?.toList.map fun t => CheckAnswer.mk t (answer t)).filter
      (fun a => !a.isForOrg) = [] := by
    cases h : s.naming.orgRelation <;> simp [orgTarget?, h, CheckAnswer.isForOrg]
  rw [RelationshipResolution.ofServices, answersOf, targets_eq, List.map_append,
    List.filter_append, horg, List.nil_append, List.map_map, List.filter_eq_self.2]
  · rfl
  · intro a ha
    obtain ⟨id, _, rfl⟩ := List.mem_map.1 ha
    rfl

theorem orgAllowed_answersOf :
    RelationshipResolution.orgAllowed (s.answersOf catalog answer) = true ↔ s.OrgAllows answer := by
  rw [RelationshipResolution.orgAllowed, List.any_eq_true]
  constructor
  · rintro ⟨a, ha, hp⟩
    obtain ⟨t, ht, rfl⟩ := List.mem_map.1 ha
    rw [Bool.and_eq_true] at hp
    rw [targets_eq, List.mem_append] at ht
    rcases ht with ht | ht
    · exact ⟨t, Option.mem_toList.1 ht, CheckAnswer.allows_iff.1 hp.2⟩
    · obtain ⟨id, _, rfl⟩ := List.mem_map.1 ht
      cases hp.1
  · rintro ⟨t, ht, hok⟩
    have hmem : t ∈ s.targets catalog := by
      rw [targets_eq]
      exact List.mem_append_left _ (Option.mem_toList.2 ht)
    have hfor : (CheckAnswer.mk t (answer t)).isForOrg = true := by
      obtain ⟨relation, _, rfl⟩ := Option.map_eq_some_iff.1 ht
      rfl
    refine ⟨⟨t, answer t⟩, List.mem_map_of_mem hmem, ?_⟩
    rw [hfor, CheckAnswer.allows_iff.2 hok, Bool.and_self]

theorem allServicesFailed_answersOf :
    RelationshipResolution.allServicesFailed (s.answersOf catalog answer) = true ↔
      s.Outage catalog answer := by
  simp only [RelationshipResolution.allServicesFailed, ofServices_answersOf, Bool.and_eq_true,
    Bool.not_eq_true', List.isEmpty_eq_false_iff, ne_eq, List.map_eq_nil_iff, List.all_map,
    List.all_eq_true, Function.comp_apply, CheckAnswer.failed_iff, Outage]

theorem mem_grants_answersOf {id : String} :
    id ∈ (s.answersOf catalog answer).filterMap CheckAnswer.grant? ↔
      id ∈ catalog.ids ∧ answer (s.serviceTarget id) = .ok true := by
  rw [answersOf, List.filterMap_map, List.mem_filterMap]
  constructor
  · rintro ⟨t, ht, hg⟩
    obtain ⟨hallow, hservice⟩ := CheckAnswer.grant?_eq_some.1 hg
    rw [targets_eq, List.mem_append] at ht
    rcases ht with ht | ht
    · obtain ⟨relation, _, rfl⟩ := Option.map_eq_some_iff.1 (Option.mem_toList.1 ht)
      cases hservice
    · obtain ⟨id', hid, rfl⟩ := List.mem_map.1 ht
      cases hservice
      exact ⟨hid, hallow⟩
  · rintro ⟨hid, hok⟩
    refine ⟨s.serviceTarget id, ?_, CheckAnswer.grant?_eq_some.2 ⟨hok, rfl⟩⟩
    rw [targets_eq]
    exact List.mem_append_right _ (List.mem_map_of_mem hid)

theorem length_failures_of_outage (h : s.Outage catalog answer) :
    (s.failures catalog answer).length =
      catalog.size + if s.orgFails answer then 1 else 0 := by
  have hall : ((catalog.ids.map s.serviceTarget).filterMap
      (CheckTarget.failure? answer)).length = catalog.size := by
    rw [List.length_filterMap_eq_countP, List.countP_eq_length.2, List.length_map]
    · rfl
    · intro t ht
      obtain ⟨id, hid, rfl⟩ := List.mem_map.1 ht
      obtain ⟨fault, hfault⟩ := h.2 id hid
      simp [CheckTarget.failure?, CheckAnswer.failure?, hfault]
  have horg : (s.orgTarget?.toList.filterMap (CheckTarget.failure? answer)).length =
      if s.orgFails answer then 1 else 0 := by
    cases ht : s.orgTarget? with
    | none => simp [orgFails, ht]
    | some t => cases hf : t.failure? answer <;> simp [orgFails, ht, hf]
  rw [failures, List.filterMap_append, List.length_append, hall, horg, Nat.add_comm]

theorem firstReason_answersOf {id : String} {rest : List String} {fault : CheckFault}
    (hids : catalog.ids = id :: rest) (hfault : answer (s.serviceTarget id) = .error fault) :
    RelationshipResolution.firstReason (s.answersOf catalog answer) = fault.message := by
  rw [RelationshipResolution.firstReason, ofServices_answersOf, hids]
  simp [RelationshipResolution.failuresOf, CheckAnswer.failure?, hfault]

theorem ofAnswers_of_orgAllows (horg : s.OrgAllows answer) :
    RelationshipResolution.ofAnswers (s.answersOf catalog answer) =
      .ok ⟨.unrestricted .relationship, s.failures catalog answer⟩ := by
  have hallowed := (s.orgAllowed_answersOf catalog answer).2 horg
  rw [RelationshipResolution.ofAnswers, if_pos hallowed, failuresOf_answersOf]

theorem ofAnswers_of_outage (horg : ¬ s.OrgAllows answer) (hout : s.Outage catalog answer) :
    ∃ id rest fault, catalog.ids = id :: rest ∧ answer (s.serviceTarget id) = .error fault ∧
      RelationshipResolution.ofAnswers (s.answersOf catalog answer) =
        .error (.serviceUnavailable (catalog.size + if s.orgFails answer then 1 else 0)
          fault.message) := by
  have hallowed : ¬ RelationshipResolution.orgAllowed (s.answersOf catalog answer) = true :=
    fun h => horg ((s.orgAllowed_answersOf catalog answer).1 h)
  have hfailed := (s.allServicesFailed_answersOf catalog answer).2 hout
  obtain ⟨id, rest, hids⟩ := List.exists_cons_of_ne_nil hout.1
  obtain ⟨fault, hfault⟩ := hout.2 id (hids ▸ List.mem_cons_self)
  refine ⟨id, rest, fault, hids, hfault, ?_⟩
  rw [RelationshipResolution.ofAnswers, if_neg hallowed, if_pos hfailed, failuresOf_answersOf,
    s.length_failures_of_outage catalog answer hout,
    s.firstReason_answersOf catalog answer hids hfault]

theorem ofAnswers_of_services (horg : ¬ s.OrgAllows answer) (hout : ¬ s.Outage catalog answer) :
    ∃ decision, RelationshipResolution.ofAnswers (s.answersOf catalog answer) =
        .ok ⟨decision, s.failures catalog answer⟩ ∧
      decision.RestrictsTo .relationship
        (fun id => id ∈ catalog.ids ∧ answer (s.serviceTarget id) = .ok true)
        .noRelationshipGrant := by
  have hallowed : ¬ RelationshipResolution.orgAllowed (s.answersOf catalog answer) = true :=
    fun h => horg ((s.orgAllowed_answersOf catalog answer).1 h)
  have hfailed : ¬ RelationshipResolution.allServicesFailed (s.answersOf catalog answer) = true :=
    fun h => hout ((s.allServicesFailed_answersOf catalog answer).1 h)
  rw [RelationshipResolution.ofAnswers, if_neg hallowed, if_neg hfailed, failuresOf_answersOf]
  refine ⟨_, rfl, Decision.restricted_restrictsTo _ _ fun id => ?_⟩
  rw [NameSet.mem_ofList, mem_grants_answersOf]

end Answers

theorem nodup_targets (s : RelationshipSide) (catalog : Catalog) :
    (s.targets catalog).Nodup := by
  have hids : catalog.ids.Nodup :=
    List.Pairwise.of_map serviceKey (fun _ _ h e => h (congrArg serviceKey e)) catalog.distinct.1
  rw [targets_eq, List.nodup_append]
  refine ⟨?_, ?_, ?_⟩
  · cases s.orgTarget? <;> simp
  · refine List.Pairwise.map s.serviceTarget ?_ hids
    intro a b hab h
    exact hab (Option.some.inj (congrArg CheckTarget.service h))
  · intro a ha b hb hab
    obtain ⟨relation, _, rfl⟩ := Option.map_eq_some_iff.1 (Option.mem_toList.1 ha)
    obtain ⟨id, _, rfl⟩ := List.mem_map.1 hb
    cases hab

theorem nodup_failures (s : RelationshipSide) (catalog : Catalog)
    (answer : CheckTarget → Except CheckFault Bool) :
    ((s.failures catalog answer).map CheckFailure.target).Nodup := by
  rw [failures, ← targets_eq, List.map_filterMap]
  refine List.Pairwise.filterMap _ ?_ (s.nodup_targets catalog)
  intro t t' hne u hu u' hu' h
  obtain ⟨f, hf, rfl⟩ := Option.map_eq_some_iff.1 hu
  obtain ⟨f', hf', rfl⟩ := Option.map_eq_some_iff.1 hu'
  rw [CheckTarget.target_of_failure? hf, CheckTarget.target_of_failure? hf'] at h
  exact hne h

/-! ## Effects -/

section Effects

variable (p : Effect → Prop) (s : RelationshipSide) (world : RelationshipWorld) {tenant : String}

theorem only_findWorkspace (hlookup : p (.lookup tenant))
    (hfound : ∀ workspace, p (.found tenant workspace)) :
    (s.findWorkspace world tenant).Only p := by
  unfold findWorkspace
  refine Run.Only.within (.map ?_ _) _ _
  cases world.workspace with
  | remembered workspace => exact .done _
  | asked reply =>
    unfold WorkspaceAnswer.obtain WorkspaceAnswer.ask
    refine .andThen (.emit hlookup) fun _ _ _ => .andThen (.await reply) fun _ answer _ => ?_
    cases answer with
    | ok workspace => exact Run.Only.map (.emit (hfound workspace)) _
    | error fault => exact .done _

theorem only_runCheck (principal : Principal) (workspace : Workspace) (target : CheckTarget)
    (hcheck : ∀ query, p (.check query)) :
    (s.runCheck world principal workspace target).Only p := by
  refine Run.Only.map (.within (.andThen (.emit ?_) fun _ _ _ => .await _) _ _) _
  exact hcheck _

theorem only_resolve (principal : Principal) (catalog : Catalog) (hlookup : p (.lookup tenant))
    (hfound : ∀ workspace, p (.found tenant workspace)) (hcheck : ∀ query, p (.check query))
    (hlog : ∀ entry, p (.log entry)) : (s.resolve world principal tenant catalog).Only p := by
  refine (only_findWorkspace p s world hlookup hfound).andThen fun _ found _ => ?_
  cases found with
  | error error => exact .done _
  | ok workspace =>
    refine Run.Only.andThen (.all fun r hr => ?_) fun _ _ _ => .map (.emitAll fun x hx => ?_) _
    · obtain ⟨target, _, rfl⟩ := List.mem_map.1 hr
      exact only_runCheck p s world principal workspace target hcheck
    · obtain ⟨entry, _, rfl⟩ := List.mem_map.1 hx
      exact hlog entry

end Effects

/-! ## The whole -/

theorem value?_resolve (s : RelationshipSide) (world : RelationshipWorld) (principal : Principal)
    (tenant : String) (catalog : Catalog) :
    (s.resolve world principal tenant catalog).value? =
      some (s.conclusion world principal tenant catalog) :=
  Run.value?_of_ending (s.resolve_ending world principal tenant catalog)

theorem conclusion_of_workspace {s : RelationshipSide} {world : RelationshipWorld}
    {workspace : Workspace} (h : s.workspaceInTime world = .ok workspace) (principal : Principal)
    (tenant : String) (catalog : Catalog) :
    s.conclusion world principal tenant catalog =
      RelationshipResolution.ofAnswers
        (s.answersOf catalog (s.checkInTime world principal workspace)) := by
  rw [conclusion, h]

/-- A resolution that comes to a decision has a workspace, and the decision is one of two kinds. -/
theorem cases_of_conclusion {s : RelationshipSide} {world : RelationshipWorld}
    {principal : Principal} {tenant : String} {catalog : Catalog} {r : RelationshipResolution}
    (h : s.conclusion world principal tenant catalog = .ok r) :
    ∃ workspace, s.workspaceInTime world = .ok workspace ∧
      (r.decision = .unrestricted .relationship ∨
        ¬ s.Outage catalog (s.checkInTime world principal workspace) ∧
          r.decision.RestrictsTo .relationship
            (fun id => id ∈ catalog.ids ∧
              s.checkInTime world principal workspace (s.serviceTarget id) = .ok true)
            .noRelationshipGrant) := by
  cases hw : s.workspaceInTime world with
  | error reason =>
    rw [conclusion, hw] at h
    cases h
  | ok workspace =>
    rw [conclusion_of_workspace hw] at h
    refine ⟨workspace, rfl, ?_⟩
    by_cases horg : s.OrgAllows (s.checkInTime world principal workspace)
    · rw [s.ofAnswers_of_orgAllows catalog _ horg] at h
      cases h
      exact .inl rfl
    · by_cases hout : s.Outage catalog (s.checkInTime world principal workspace)
      · obtain ⟨_, _, _, _, _, herror⟩ := s.ofAnswers_of_outage catalog _ horg hout
        rw [herror] at h
        cases h
      · obtain ⟨decision, hok, hrestricts⟩ := s.ofAnswers_of_services catalog _ horg hout
        rw [hok] at h
        cases h
        exact .inr ⟨hout, hrestricts⟩

theorem no_check_of_lookup_failed {s : RelationshipSide} {world : RelationshipWorld}
    {reason : String} (h : s.workspaceInTime world = .error reason) (principal : Principal)
    (tenant : String) (catalog : Catalog) (query : CheckQuery) :
    .check query ∉ (s.resolve world principal tenant catalog).effects := by
  have hlookup : (s.resolve world principal tenant catalog).Only fun e => e.isCheck = false := by
    refine Run.Only.andThen (only_findWorkspace _ s world rfl fun _ => rfl) fun _ found ha => ?_
    rw [ending_findWorkspace, h] at ha
    cases ha
    exact .done _
  intro hmem
  cases hlookup.effects _ hmem

/-- A restricted resolution opens a service if and only if its own check allows it. -/
theorem mem_of_conclusion {s : RelationshipSide} {world : RelationshipWorld}
    {principal : Principal} {tenant : String} {catalog : Catalog} {workspace : Workspace}
    {r : RelationshipResolution} {services : NameSet}
    (hw : s.workspaceInTime world = .ok workspace)
    (hr : s.conclusion world principal tenant catalog = .ok r)
    (ha : r.decision.access = .restricted services) {id : String} :
    id ∈ services ↔
      id ∈ catalog.ids ∧
        s.checkInTime world principal workspace (s.serviceTarget id) = .ok true := by
  simp only [conclusion, hw, RelationshipResolution.ofAnswers] at hr
  split at hr
  · cases hr; cases ha
  · split at hr
    · cases hr
    · cases hr; cases ha
      rw [NameSet.mem_ofList, mem_grants_answersOf]

/-- The conclusion of a resolution, case by case. Without a workspace there is none and no check is
made; the organization's grant leaves access unrestricted; if the checks of all services failed
there is no decision either; otherwise exactly the services whose own check allows it are open.
What becomes of the other checks does not matter for a service that restricted decisions open. -/
theorem resolution_exact (s : RelationshipSide) (world : RelationshipWorld)
    (principal : Principal) (tenant : String) (catalog : Catalog) :
    let work := s.resolve world principal tenant catalog
    (∀ reason, s.workspaceInTime world = .error reason →
      work.value? = some (.error (.lookupFailed tenant reason)) ∧
      ∀ query, .check query ∉ work.effects) ∧
    (∀ workspace, s.workspaceInTime world = .ok workspace →
      let answer := s.checkInTime world principal workspace
      (s.OrgAllows answer →
        work.value? = some (.ok ⟨.unrestricted .relationship, s.failures catalog answer⟩)) ∧
      (¬ s.OrgAllows answer → s.Outage catalog answer →
        ∃ id rest fault, catalog.ids = id :: rest ∧ answer (s.serviceTarget id) = .error fault ∧
          work.value? = some (.error (.serviceUnavailable
            (catalog.size + if s.orgFails answer then 1 else 0) fault.message))) ∧
      (¬ s.OrgAllows answer → ¬ s.Outage catalog answer →
        ∃ decision, work.value? = some (.ok ⟨decision, s.failures catalog answer⟩) ∧
          decision.RestrictsTo .relationship
            (fun id => id ∈ catalog.ids ∧ answer (s.serviceTarget id) = .ok true)
            .noRelationshipGrant) ∧
      ((s.failures catalog answer).map CheckFailure.target).Nodup) ∧
    ∀ world' workspace workspace' id,
      s.workspaceInTime world = .ok workspace → s.workspaceInTime world' = .ok workspace' →
      s.checkInTime world principal workspace (s.serviceTarget id) =
        s.checkInTime world' principal workspace' (s.serviceTarget id) →
      ∀ r r' services services', work.value? = some (.ok r) →
        (s.resolve world' principal tenant catalog).value? = some (.ok r') →
        r.decision.access = .restricted services → r'.decision.access = .restricted services' →
        (id ∈ services ↔ id ∈ services') := by
  intro work
  have hvalue : work.value? = some (s.conclusion world principal tenant catalog) :=
    s.value?_resolve world principal tenant catalog
  refine ⟨?_, ?_, ?_⟩
  · intro reason h
    refine ⟨?_, no_check_of_lookup_failed h principal tenant catalog⟩
    rw [hvalue, conclusion, h]
  · intro workspace h answer
    have hconclusion : s.conclusion world principal tenant catalog =
        RelationshipResolution.ofAnswers (s.answersOf catalog answer) :=
      conclusion_of_workspace h principal tenant catalog
    rw [hvalue, hconclusion]
    refine ⟨?_, ?_, ?_, s.nodup_failures catalog answer⟩
    · intro horg
      rw [s.ofAnswers_of_orgAllows catalog answer horg]
    · intro horg hout
      obtain ⟨id, rest, fault, hids, hfault, herror⟩ :=
        s.ofAnswers_of_outage catalog answer horg hout
      exact ⟨id, rest, fault, hids, hfault, congrArg some herror⟩
    · intro horg hout
      obtain ⟨decision, hok, hrestricts⟩ := s.ofAnswers_of_services catalog answer horg hout
      exact ⟨decision, congrArg some hok, hrestricts⟩
  · intro world' workspace workspace' id hw hw' hsame r r' services services' hr hr' ha ha'
    rw [hvalue, Option.some.injEq] at hr
    rw [value?_resolve, Option.some.injEq] at hr'
    rw [mem_of_conclusion hw hr ha, mem_of_conclusion hw' hr' ha', hsame]

/-- One service is granted, one is denied and one does not answer, in spite of an organization
check that is denied. -/
theorem resolution_exact_of_silent_check :
    let s : RelationshipSide := ⟨.standard, .ofMillis 500, .ofMillis 200⟩
    let world : RelationshipWorld :=
      ⟨.asked (.after 40 (.ok ⟨"ws-1"⟩)), fun t _ =>
        if t.service = some "tasks" then .after 30 (.ok true)
        else if t.service = some "remediations" then .silent
        else .after 10 (.ok false)⟩
    let catalog := Catalog.ofIds ["remediations", "tasks", "config-manager"]
    let answer := s.checkInTime world ⟨.user, "alice"⟩ ⟨"ws-1"⟩
    s.workspaceInTime world = .ok ⟨"ws-1"⟩ ∧ ¬ s.OrgAllows answer ∧ ¬ s.Outage catalog answer ∧
      ∃ decision,
        (s.resolve world ⟨.user, "alice"⟩ "1000" catalog).value? = some (.ok ⟨decision,
          [⟨⟨some "remediations", "playbook_dispatcher_remediations_run_view"⟩,
            .timedOut 200⟩]⟩) ∧
        decision.RestrictsTo .relationship
          (fun id => id ∈ catalog.ids ∧ answer (s.serviceTarget id) = .ok true)
          .noRelationshipGrant := by
  intro s world catalog answer
  have hworkspace : s.workspaceInTime world = .ok ⟨"ws-1"⟩ := by
    have hin : 40 ≤ s.lookupPatience.ticks := by decide +kernel
    simp only [workspaceInTime, world, Reply.within?, hin, if_true]
  have horg : ¬ s.OrgAllows answer := by
    rintro ⟨t, ht, hok⟩
    cases ht
    have hin : 10 ≤ s.checkPatience.ticks := by decide +kernel
    simp [answer, checkInTime, world, Reply.within?, hin] at hok
  have hout : ¬ s.Outage catalog answer := by
    intro h
    obtain ⟨fault, hfault⟩ := h.2 "tasks" (by decide +kernel)
    have hin : 30 ≤ s.checkPatience.ticks := by decide +kernel
    simp [answer, checkInTime, serviceTarget, world, Reply.within?, hin] at hfault
  have hfailures : s.failures catalog answer =
      [⟨⟨some "remediations", "playbook_dispatcher_remediations_run_view"⟩, .timedOut 200⟩] := by
    decide +kernel
  obtain ⟨decision, hvalue, hrestricts⟩ :=
    (((s.resolution_exact world ⟨.user, "alice"⟩ "1000" catalog).2.1 ⟨"ws-1"⟩ hworkspace).2.2.1)
      horg hout
  exact ⟨hworkspace, horg, hout, decision, by rw [← hfailures]; exact hvalue, hrestricts⟩

end RelationshipSide

end ScopedAccess
