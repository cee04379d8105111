import ScopedAccess.Proofs.Interruption

/-!
# ScopedAccess.Proofs.Queries

What calls ask the relationship services, and in which order.

* `Run.part`: the effects of one kind, each at its instant, with a law for each way to put work
  together.
* `part_resolve`: a resolution looks the workspace up unless it is remembered, and then makes all
  checks at one instant.
* `part_undisturbed`: a call asks what its resolution asks, or nothing where only the attribute
  model is asked.
* `relational_isPrefix` and `relational_of_resolvesInTime`: an interruption cuts the end off, if the
  resolution is not over by then.
-/

namespace ScopedAccess

namespace Run

variable {ε α β : Type} {p : ε → Bool}

/-- The effects of one kind. -/
def part (p : ε → Bool) (r : Run ε α) : List (Nat × ε) := r.trace.filter fun x => p x.2

theorem part_eq_nil {r : Run ε α} (h : r.Only fun x => p x = false) : r.part p = [] := by
  refine List.filter_eq_nil_iff.2 fun x hx => ?_
  rw [h x hx]
  exact Bool.false_ne_true

theorem filter_shift (delay : Nat) (xs : List (Nat × ε)) :
    (shift delay xs).filter (fun x => p x.2) = shift delay (xs.filter fun x => p x.2) := by
  rw [shift, List.filter_map]
  rfl

theorem part_andThenAt {r : Run ε α} {next : Nat → α → Run ε β} {t : Nat} {a : α}
    (h : r.ending = some (t, a)) :
    (r.andThenAt next).part p = r.part p ++ shift t ((next t a).part p) := by
  rw [andThenAt_of_ending h, part, preceded, List.filter_append, later, filter_shift]
  rfl

/-- Work that goes on without effects of a kind adds none of them. -/
theorem part_andThenAt_of_nil {r : Run ε α} {next : Nat → α → Run ε β}
    (h : ∀ t a, r.ending = some (t, a) → (next t a).part p = []) :
    (r.andThenAt next).part p = r.part p := by
  cases hr : r.ending with
  | none =>
    rw [andThenAt_of_none hr]
    rfl
  | some x =>
    rw [part_andThenAt hr, h x.1 x.2 hr]
    exact List.append_nil _

theorem filter_mergeTraces {q : Nat × ε → Bool} {xs ys : List (Nat × ε)}
    (h : ∀ x ∈ xs, q x = false) : (mergeTraces xs ys).filter q = ys.filter q := by
  induction xs generalizing ys with
  | nil => simp [mergeTraces]
  | cons x xs ihx =>
    have hx : ¬ q x = true := by
      rw [h x List.mem_cons_self]
      exact Bool.false_ne_true
    have hxs : ∀ z ∈ xs, q z = false := fun z hz => h z (List.mem_cons_of_mem x hz)
    induction ys with
    | nil => simpa [mergeTraces] using h
    | cons y ys ihy =>
      -- the head of the merged trace is dropped if it is `x`, and `y` is kept or dropped alike
      unfold mergeTraces at ihx ihy ⊢
      rw [List.cons_merge_cons]
      by_cases hxy : x.1 ≤ y.1
      · rw [if_pos (decide_eq_true hxy), List.filter_cons_of_neg hx, ihx hxs]
      · rw [if_neg (by rw [decide_eq_true_eq]; exact hxy), List.filter_cons, ihy, List.filter_cons]

theorem part_beside {r : Run ε α} {s : Run ε β} (h : r.Only fun x => p x = false) :
    (r.beside s).part p = s.part p :=
  filter_mergeTraces fun x hx => h x hx

theorem filter_mergeTraces_right {q : Nat × ε → Bool} {xs ys : List (Nat × ε)}
    (h : ∀ y ∈ ys, q y = false) : (mergeTraces xs ys).filter q = xs.filter q := by
  induction xs generalizing ys with
  | nil => simpa [mergeTraces] using h
  | cons x xs ihx =>
    induction ys with
    | nil => simp [mergeTraces]
    | cons y ys ihy =>
      have hy : ¬ q y = true := by
        rw [h y List.mem_cons_self]
        exact Bool.false_ne_true
      have hys : ∀ z ∈ ys, q z = false := fun z hz => h z (List.mem_cons_of_mem y hz)
      unfold mergeTraces at ihx ihy ⊢
      rw [List.cons_merge_cons]
      by_cases hxy : x.1 ≤ y.1
      · rw [if_pos (decide_eq_true hxy), List.filter_cons, ihx h, List.filter_cons]
      · rw [if_neg (by rw [decide_eq_true_eq]; exact hxy), List.filter_cons_of_neg hy, ihy hys]

theorem part_beside_right {r : Run ε α} {s : Run ε β} (h : s.Only fun x => p x = false) :
    (r.beside s).part p = r.part p :=
  filter_mergeTraces_right fun y hy => h y hy

theorem before_filter (limit : Nat) (q : Nat × ε → Bool) (xs : List (Nat × ε)) :
    (before limit xs).filter q = before limit (xs.filter q) := by
  simp only [before, List.filter_filter, Bool.and_comm]

theorem before_isPrefix {limit : Nat} {xs : List (Nat × ε)} (h : InOrder xs) :
    before limit xs <+: xs := by
  induction xs with
  | nil => exact List.prefix_refl _
  | cons x xs ih =>
    have hx := List.pairwise_cons.1 h
    by_cases hl : x.1 < limit
    · rw [before_cons_of_lt hl]
      exact List.cons_prefix_cons.2 ⟨rfl, ih hx.2⟩
    · rw [before_eq_nil (le_of_mem_cons h (Nat.le_of_not_lt hl))]
      exact List.nil_prefix

theorem filter_effects (r : Run ε α) : r.effects.filter p = (r.part p).map Prod.snd := by
  rw [effects, part, List.filter_map]
  rfl

end Run

namespace Effect

/-- Whether an effect is a question to the relationship services or the workspace asked for. -/
def isRelational : Effect → Bool
  | lookup _ => true
  | found _ _ => true
  | check _ => true
  | _ => false

def isFetch : Effect → Bool
  | fetch _ _ => true
  | _ => false

def query? : Effect → Option CheckQuery
  | check query => some query
  | _ => none

theorem query?_eq_some {effect : Effect} {query : CheckQuery} :
    effect.query? = some query ↔ effect = .check query := by
  cases effect <;> simp [query?]

end Effect

namespace RelationshipSide

/-- What is asked and found about the workspace of a tenant. -/
def lookupTrace (s : RelationshipSide) (world : RelationshipWorld) (tenant : String) :
    List (Nat × Effect) :=
  match world.workspace, s.workspaceInTime world with
  | .remembered _, _ => []
  | .asked _, .ok workspace =>
    [(0, .lookup tenant), (s.lookupInstant world, .found tenant workspace)]
  | .asked _, .error _ => [(0, .lookup tenant)]

/-- The checks of a resolution. -/
def queries (s : RelationshipSide) (world : RelationshipWorld) (principal : Principal)
    (catalog : Catalog) : List CheckQuery :=
  match s.workspaceInTime world with
  | .ok workspace => (s.targets catalog).map fun t => ⟨workspace, principal, t.relation⟩
  | .error _ => []

section Traces

variable (s : RelationshipSide) (world : RelationshipWorld) (principal : Principal)
  (tenant : String) (catalog : Catalog) (workspace : Workspace)

theorem trace_ask (reply : Reply (Except LookupFault Workspace)) :
    (WorkspaceAnswer.ask tenant reply).trace =
      match reply with
      | .after t (.ok workspace) => [(0, .lookup tenant), (t, .found tenant workspace)]
      | _ => [(0, .lookup tenant)] := by
  cases reply with
  | silent => rfl
  | after t answer =>
    cases answer with
    | ok workspace =>
      simp [WorkspaceAnswer.ask, Run.andThen, Run.andThenAt, Run.emit, Run.await, Run.map,
        Run.later, Run.shift]
    | error fault => rfl

theorem trace_findWorkspace :
    (s.findWorkspace world tenant).trace = s.lookupTrace world tenant := by
  unfold findWorkspace lookupTrace workspaceInTime lookupInstant Run.within
  cases world.workspace with
  | remembered workspace => simp [WorkspaceAnswer.obtain, Run.endsBefore, Run.map, Run.done]
  | asked reply =>
    have hend : ((WorkspaceAnswer.ask tenant reply).map (lookupResult tenant)).ending =
        reply.ending.map fun x => (x.1, lookupResult tenant x.2) := by
      rw [Run.ending_map, ending_ask]
    simp only [WorkspaceAnswer.obtain, Run.endsBefore, hend]
    cases reply with
    | silent => simp [Reply.ending, Reply.within?, Run.map, trace_ask, Run.before]
    | after t answer =>
      by_cases ht : t ≤ s.lookupPatience.ticks
      · have hlt : t < s.lookupPatience.ticks + 1 := Nat.lt_succ_of_le ht
        cases answer <;>
          simp [Reply.ending, Reply.within?, Reply.waited, ht, hlt, Run.map, trace_ask]
      · have hlt : ¬ t < s.lookupPatience.ticks + 1 := fun h => ht (Nat.le_of_lt_succ h)
        cases answer <;>
          simp [Reply.ending, Reply.within?, ht, hlt, Run.map, trace_ask, Run.before]

theorem trace_runCheck (target : CheckTarget) :
    (s.runCheck world principal workspace target).trace =
      [(0, .check ⟨workspace, principal, target.relation⟩)] := by
  have htrace (reply : Reply (Except CheckFault Bool)) :
      ((Run.emit (Effect.check ⟨workspace, principal, target.relation⟩)).andThen fun _ =>
        Run.await reply).trace = [(0, .check ⟨workspace, principal, target.relation⟩)] := by
    cases reply <;> rfl
  unfold runCheck Run.within
  simp only [Run.map]
  split
  · exact htrace _
  · rw [htrace, Run.before_cons_of_lt (Nat.succ_pos _)]
    simp only [Run.before, List.filter_nil]

theorem trace_allChecks (targets : List CheckTarget) :
    (Run.all (targets.map (s.runCheck world principal workspace))).trace =
      targets.map fun t => (0, .check ⟨workspace, principal, t.relation⟩) := by
  induction targets with
  | nil => rfl
  | cons t targets ih =>
    rw [List.map_cons, Run.all, List.map_cons]
    show Run.mergeTraces _ _ = _
    rw [trace_runCheck, ih, Run.mergeTraces_cons_left _ fun y _ => Nat.zero_le y.1]
    simp [Run.mergeTraces]

theorem part_runChecks :
    (s.runChecks world principal catalog workspace).part Effect.isRelational =
      (s.targets catalog).map fun t => (0, .check ⟨workspace, principal, t.relation⟩) := by
  rw [runChecks, Run.andThen, Run.part_andThenAt_of_nil, Run.part, trace_allChecks]
  · refine List.filter_eq_self.2 fun x hx => ?_
    obtain ⟨t, _, rfl⟩ := List.mem_map.1 hx
    rfl
  · intro _ answers _
    refine Run.part_eq_nil (Run.Only.map (.emitAll fun x hx => ?_) _)
    obtain ⟨entry, _, rfl⟩ := List.mem_map.1 hx
    rfl

/-- A resolution looks the workspace up unless it is remembered, and then makes all checks at one
instant. -/
theorem part_resolve :
    (s.resolve world principal tenant catalog).part Effect.isRelational =
      s.lookupTrace world tenant ++
        (s.queries world principal catalog).map fun q => (s.lookupInstant world, .check q) := by
  have hlookup : (s.findWorkspace world tenant).part Effect.isRelational =
      s.lookupTrace world tenant := by
    rw [Run.part, trace_findWorkspace]
    refine List.filter_eq_self.2 fun x hx => ?_
    unfold lookupTrace at hx
    split at hx
    · cases hx
    · simp only [List.mem_cons, List.not_mem_nil, or_false] at hx
      rcases hx with rfl | rfl <;> rfl
    · rw [List.mem_singleton.1 hx]
      rfl
  rw [resolve, Run.andThen, Run.part_andThenAt (s.ending_findWorkspace world tenant), hlookup,
    queries]
  cases s.workspaceInTime world with
  | error reason => rfl
  | ok workspace =>
    show _ ++ Run.shift (s.lookupInstant world)
      ((s.runChecks world principal catalog workspace).part Effect.isRelational) = _
    rw [part_runChecks, Run.shift, List.map_map, List.map_map]
    rfl

theorem map_relation_targets :
    (s.targets catalog).map CheckTarget.relation =
      s.naming.orgRelation.toList ++ catalog.ids.map s.naming.relationFor := by
  rw [targets, List.map_append, List.map_map]
  cases s.naming.orgRelation <;> rfl

theorem queries_of_workspace (h : s.workspaceInTime world = .ok workspace) :
    s.queries world principal catalog =
      (s.naming.orgRelation.toList ++ catalog.ids.map s.naming.relationFor).map fun relation =>
        ⟨workspace, principal, relation⟩ := by
  rw [queries, h, ← map_relation_targets, List.map_map]
  rfl

theorem queries_of_error {reason : String} (h : s.workspaceInTime world = .error reason) :
    s.queries world principal catalog = [] := by
  rw [queries, h]

theorem mem_queries {query : CheckQuery} (h : query ∈ s.queries world principal catalog) :
    query.principal = principal ∧
      (s.naming.orgRelation = some query.relation ∨
        ∃ id ∈ catalog.ids, query.relation = s.naming.relationFor id) := by
  cases hw : s.workspaceInTime world with
  | error reason =>
    rw [s.queries_of_error world principal catalog hw] at h
    cases h
  | ok workspace =>
    rw [s.queries_of_workspace world principal catalog workspace hw] at h
    obtain ⟨relation, hrelation, rfl⟩ := List.mem_map.1 h
    refine ⟨rfl, (List.mem_append.1 hrelation).imp Option.mem_toList.1 fun hservice => ?_⟩
    obtain ⟨id, hid, rfl⟩ := List.mem_map.1 hservice
    exact ⟨id, hid, rfl⟩

theorem found_lookupTrace {t : String} {w : Workspace}
    (h : .found t w ∈ (s.lookupTrace world tenant).map Prod.snd) :
    t = tenant ∧ ∃ n, world.workspace = .asked (.after n (.ok w)) := by
  unfold lookupTrace workspaceInTime at h
  cases ha : world.workspace with
  | remembered workspace =>
    rw [ha] at h
    cases h
  | asked reply =>
    rw [ha] at h
    cases reply with
    | silent => simp [Reply.within?] at h
    | after n answer =>
      cases answer with
      | error fault => by_cases hn : n ≤ s.lookupPatience.ticks <;> simp [Reply.within?, hn] at h
      | ok workspace =>
        by_cases hn : n ≤ s.lookupPatience.ticks
        · simp only [Reply.within?, hn, if_true, List.map_cons, List.map_nil, List.mem_cons,
            reduceCtorEq, Effect.found.injEq, List.not_mem_nil, false_or, or_false] at h
          obtain ⟨rfl, rfl⟩ := h
          exact ⟨rfl, n, rfl⟩
        · simp [Reply.within?, hn] at h

theorem filterMap_query?_lookupTrace :
    (s.lookupTrace world tenant).filterMap (fun x => x.2.query?) = [] := by
  unfold lookupTrace
  split <;> rfl

end Traces

end RelationshipSide

namespace Engine

section Calls

variable (e : Engine) (world : World) (policy : PolicySnapshot) (context : CallContext)
  (request : Request) (operation : Operation)

theorem orderly_runFallBack (outage : AuthzError) (side : Side) :
    (runFallBack outage side).Orderly :=
  .map (.emitAll _) _

theorem orderly_concludeBoth (authoritative : Source) (sides : Side × Side) :
    (e.concludeBoth request authoritative sides).Orderly := by
  obtain ⟨attributeSide, relationshipSide⟩ := sides
  rw [concludeBoth]
  split
  · exact .done _
  · refine .andThen (.emit _) fun _ => ?_
    split
    · exact .done _
    · split
      · exact orderly_runFallBack _ _
      · exact .done _

theorem orderly_resolve (mode : Mode) : (e.resolve world none request mode).Orderly := by
  have hboth (authoritative : Source) : (e.resolveBoth world none request authoritative).Orderly :=
    ((e.orderly_attributeSide world request).beside (e.orderly_relationshipSide world request)).andThen
      (e.orderly_concludeBoth request authoritative)
  cases mode with
  | attributeOnly =>
    show (e.resolveAttribute world none request).Orderly
    unfold resolveAttribute
    exact .map (e.orderly_attributeSide world request) _
  | relationshipOnly =>
    refine (e.orderly_relationshipSide world request).andThenAt fun t side _ => ?_
    cases side with
    | ok decision => exact .done _
    | error error =>
      show Run.Orderly (if _ then _ else _)
      split
      · exact (e.orderly_attributeSide world request).andThen (orderly_runFallBack error)
      · exact .done _
  | dualValidate => exact hboth _
  | dualEnforceNew => exact hboth _

theorem orderly_undisturbed : (e.undisturbed world policy request).Orderly :=
  e.orderly_resolve world request _

/-! ## Questions of calls -/

theorem attributeSide_not_relational :
    (e.attributeSide world none request).Only fun x => x.isRelational = false :=
  only_attributeSide _ e world request rfl (fun _ => rfl) fun _ => rfl

theorem relationshipSide_not_fetch :
    (e.relationshipSide world none request).Only fun x => x.isFetch = false :=
  only_relationshipSide _ e world request rfl (fun _ => rfl) (fun _ => rfl) (fun _ => rfl)
    fun _ => rfl

theorem fetches_attributeSide :
    (e.attributeSide world none request).part Effect.isFetch =
      [(0, .fetch request.subject request.tenant)] := by
  have hfetch : (fetchPermissions world request).part Effect.isFetch =
      [(0, .fetch request.subject request.tenant)] := by
    have hawait : ((Run.await world.permissions).map fetchResult).part Effect.isFetch = [] :=
      Run.part_eq_nil (.map (.await _) _)
    rw [fetchPermissions, Run.andThen, Run.part_andThenAt rfl, hawait]
    rfl
  refine Eq.trans (Run.part_andThenAt_of_nil fun _ fetched _ => Run.part_eq_nil ?_) hfetch
  exact only_concludeAttribute _ (fun _ => rfl) (fun _ => rfl) e request fetched

/-- What a resolution asks the relationship services, each question at its instant. -/
def questions : List (Nat × Effect) :=
  (e.relationships.resolve world.relationships request.principal request.tenant
    e.catalog).part Effect.isRelational

theorem part_relationshipSide :
    (e.relationshipSide world none request).part Effect.isRelational =
      e.questions world request := by
  refine Run.part_andThenAt_of_nil fun _ resolved _ => Run.part_eq_nil ?_
  exact only_concludeRelationship _ (fun _ => rfl) resolved

/-- Around its two sides, a call that asks both only logs and compares. -/
theorem part_resolveBoth {p : Effect → Bool} (hlog : ∀ entry, p (.log entry) = false)
    (hcomparison : ∀ record, p (.offer (.comparison record)) = false) (authoritative : Source) :
    (e.resolveBoth world none request authoritative).part p =
      ((e.attributeSide world none request).beside
        (e.relationshipSide world none request)).part p :=
  Run.part_andThenAt_of_nil fun _ sides _ => Run.part_eq_nil
    (only_concludeBoth (fun x => p x = false) hlog hcomparison e request authoritative sides)

/-- Effects of a kind that only the relationship side has are those of that side, and there are none
where it is not asked. -/
theorem part_resolve_of_relationship {p : Effect → Bool}
    (hattribute : (e.attributeSide world none request).Only fun x => p x = false)
    (hlog : ∀ entry, p (.log entry) = false)
    (hcomparison : ∀ record, p (.offer (.comparison record)) = false) (mode : Mode) :
    (e.resolve world none request mode).part p =
      if mode = .attributeOnly then [] else (e.relationshipSide world none request).part p := by
  have hboth (authoritative : Source) :
      (e.resolveBoth world none request authoritative).part p =
        (e.relationshipSide world none request).part p := by
    rw [part_resolveBoth e world request hlog hcomparison, Run.part_beside hattribute]
  cases mode with
  | attributeOnly => exact Run.part_eq_nil hattribute
  | relationshipOnly =>
    refine Run.part_andThenAt_of_nil fun _ side _ => ?_
    cases side with
    | ok decision => rfl
    | error error =>
      show Run.part _ (if _ then _ else _) = []
      split
      · exact Run.part_eq_nil (hattribute.andThen fun _ side _ =>
          only_runFallBack (fun x => p x = false) hlog error side)
      · rfl
  | dualValidate => exact hboth _
  | dualEnforceNew => exact hboth _

/-- A call asks the relationship services what its resolution asks, or nothing where only the
attribute model is asked. -/
theorem part_undisturbed (mode : Mode) :
    (e.resolve world none request mode).part Effect.isRelational =
      if mode = .attributeOnly then [] else e.questions world request := by
  rw [part_resolve_of_relationship e world request (e.attributeSide_not_relational world request)
    (fun _ => rfl) (fun _ => rfl), part_relationshipSide]

/-- A call fetches permissions once if it waits for the attribute side, and never otherwise. -/
theorem fetches_resolve (mode : Mode) :
    ((e.resolve world none request mode).part Effect.isFetch).map Prod.snd =
      if e.waitsForAttribute world request mode then [.fetch request.subject request.tenant]
      else [] := by
  have hrelationship := e.relationshipSide_not_fetch world request
  have hboth (authoritative : Source) :
      ((e.resolveBoth world none request authoritative).part Effect.isFetch).map Prod.snd =
        [.fetch request.subject request.tenant] := by
    rw [part_resolveBoth e world request (fun _ => rfl) (fun _ => rfl),
      Run.part_beside_right hrelationship, fetches_attributeSide]
    rfl
  cases mode with
  | attributeOnly => exact congrArg _ (e.fetches_attributeSide world request)
  | dualValidate => exact hboth _
  | dualEnforceNew => exact hboth _
  | relationshipOnly =>
    have hnone : (e.relationshipSide world none request).part Effect.isFetch = [] :=
      Run.part_eq_nil hrelationship
    show ((e.resolveRelationship world none request).part Effect.isFetch).map Prod.snd = _
    rw [resolveRelationship, Run.part_andThenAt (e.ending_relationshipSide world request), hnone,
      waitsForAttribute]
    cases hr : e.relationshipResult world request with
    | ok decision => rfl
    | error outage =>
      -- the attribute side is asked once the relationship side has failed
      have hmay : e.mayFallBack outage = e.fallback := by
        rw [mayFallBack, isOutage_of_relationshipResult hr, Bool.and_true]
      simp only [hmay]
      cases e.fallback with
      | false => rfl
      | true =>
        have hfallBack : ((e.attributeSide world none request).andThen
            (runFallBack outage)).part Effect.isFetch =
              [(0, .fetch request.subject request.tenant)] := by
          refine Eq.trans (Run.part_andThenAt_of_nil fun _ side _ => Run.part_eq_nil ?_)
            (e.fetches_attributeSide world request)
          exact only_runFallBack _ (fun _ => rfl) outage side
        exact congrArg (fun part => (Run.shift _ part).map Prod.snd) hfallBack

theorem questions_eq :
    e.questions world request =
      e.relationships.lookupTrace world.relationships request.tenant ++
        (e.relationships.queries world.relationships request.principal e.catalog).map fun q =>
          (e.relationships.lookupInstant world.relationships, .check q) :=
  RelationshipSide.part_resolve ..

/-- The resolution of a call is over before the call is interrupted. -/
def ResolvesInTime : Prop :=
  ∀ i, context.interruption? = some i → e.relationshipInstant world request < i.limit

theorem part_guarded {r : Run Effect (Except AuthzError Resolved)} (h : r.Orderly)
    (p : Effect → Bool) (stop : Option Interruption) :
    (r.guarded stop (.error .canceled)).part p =
      match stop with
      | none => r.part p
      | some i => Run.before i.limit (r.part p) := by
  cases stop with
  | none => rfl
  | some i =>
    rw [Run.guarded, Run.part, Run.trace_stoppedBefore h, Run.before_filter]
    rfl

/-- Around the work itself, a call only logs and reports errors. -/
theorem filter_effects_authorize {p : Effect → Bool} (hlog : ∀ entry, p (.log entry) = false)
    (herror : ∀ kind details, p (.offer (.error kind details)) = false) :
    (e.authorize world policy context request operation).effects.filter p =
      (((e.undisturbed world policy request).guarded context.interruption?
        (.error .canceled)).part p).map Prod.snd := by
  have hfinish (result : Except AuthzError Resolved) :
      (finish operation (policy.policy.select request.tenant) policy.version result).part p = [] := by
    refine Run.part_eq_nil ?_
    cases result with
    | ok r =>
      rw [finish]
      exact Run.Only.map (Run.Only.emit (p := fun x => p x = false) (hlog _)) _
    | error error =>
      rw [finish]
      refine Run.Only.map (.emitAll fun x hx => ?_) _
      simp only [List.mem_cons, List.not_mem_nil, or_false] at hx
      rcases hx with rfl | rfl
      · exact herror _ _
      · exact hlog _
  rw [authorize_eq, Run.effects_andThen rfl, List.filter_append, Run.filter_effects,
    Run.filter_effects, Run.part_eq_nil (Run.Only.emit (p := fun x => p x = false) (hlog _)),
    List.map_nil, List.nil_append, Run.andThen,
    Run.part_andThenAt_of_nil fun _ result _ => hfinish result]

theorem relational_authorize :
    (e.authorize world policy context request operation).effects.filter Effect.isRelational =
      (match context.interruption? with
        | none => (e.undisturbed world policy request).part Effect.isRelational
        | some i =>
          Run.before i.limit
            ((e.undisturbed world policy request).part Effect.isRelational)).map Prod.snd := by
  rw [filter_effects_authorize _ _ _ _ _ _ (fun _ => rfl) fun _ _ => rfl,
    part_guarded (e.orderly_undisturbed world policy request)]

end Calls

section Calls

variable {e : Engine} {world : World} {policy : PolicySnapshot} {context : CallContext}
  {request : Request} {operation : Operation}

/-- Whatever becomes of a call, what it asks is the beginning of what its resolution asks. -/
theorem relational_isPrefix :
    (e.authorize world policy context request operation).effects.filter Effect.isRelational <+:
      (e.questions world request).map Prod.snd := by
  have hpart : (e.undisturbed world policy request).part Effect.isRelational <+:
      e.questions world request := by
    rw [undisturbed, part_undisturbed]
    split
    · exact List.nil_prefix
    · exact List.prefix_refl _
  have horder : Run.InOrder ((e.undisturbed world policy request).part Effect.isRelational) :=
    (e.orderly_undisturbed world policy request).inOrder.filter _
  rw [relational_authorize]
  refine List.IsPrefix.map _ ?_
  split
  · exact hpart
  · exact (Run.before_isPrefix horder).trans hpart

theorem relational_of_resolvesInTime (h : e.ResolvesInTime world context request)
    (hm : policy.policy.select request.tenant ≠ .attributeOnly) :
    (e.authorize world policy context request operation).effects.filter Effect.isRelational =
      (e.questions world request).map Prod.snd := by
  have hpart : (e.undisturbed world policy request).part Effect.isRelational =
      e.questions world request := by
    rw [undisturbed, part_undisturbed, if_neg hm]
  rw [relational_authorize, hpart]
  cases hi : context.interruption? with
  | none => rfl
  | some i =>
    show (Run.before i.limit (e.questions world request)).map Prod.snd = _
    rw [Run.before_eq_self fun x hx => ?_]
    have hx := (List.mem_filter.1 hx).1
    have horderly := e.relationships.orderly_resolve world.relationships request.principal
      request.tenant e.catalog
    exact Nat.lt_of_le_of_lt
      (horderly.inTime _ _ (e.relationships.resolve_ending _ _ _ _) x hx) (h i hi)

theorem resolvesInTime_of_not_canceled
    (h : (e.authorize world policy context request operation).value? ≠ some (.error .canceled))
    (hm : policy.policy.select request.tenant ≠ .attributeOnly) :
    e.ResolvesInTime world context request := by
  intro i hi
  obtain ⟨t, result, hend, ht⟩ := Run.endsBefore_iff.1 (endsBefore_of_not_canceled hi h)
  refine Nat.lt_of_le_of_lt ?_ ht
  rw [undisturbed, ending_resolve] at hend
  split at hend
  · obtain ⟨x, _, hx⟩ := Option.map_eq_some_iff.1 hend
    cases hx
    generalize policy.policy.select request.tenant = mode at hm
    cases mode with
    | attributeOnly => exact absurd rfl hm
    | relationshipOnly => exact Nat.le_add_right _ _
    | dualValidate => exact Nat.le_max_right _ _
    | dualEnforceNew => exact Nat.le_max_right _ _
  · cases hend
    exact Nat.le_refl _

/-- Whom a call asks that is not canceled. -/
theorem consulted_of_not_canceled
    (h : (e.authorize world policy context request operation).value? ≠ some (.error .canceled)) :
    (e.authorize world policy context request operation).effects.filter Effect.isFetch =
        (if e.waitsForAttribute world request (policy.policy.select request.tenant) then
          [.fetch request.subject request.tenant] else []) ∧
      (e.authorize world policy context request operation).effects.filter Effect.isRelational =
        if policy.policy.select request.tenant = .attributeOnly then []
        else (e.questions world request).map Prod.snd := by
  rw [filter_effects_authorize _ _ _ _ _ _ (fun _ => rfl) fun _ _ => rfl,
    filter_effects_authorize _ _ _ _ _ _ (fun _ => rfl) fun _ _ => rfl,
    guarded_of_not_canceled h, undisturbed, fetches_resolve, part_undisturbed]
  exact ⟨rfl, apply_ite _ _ _ _⟩

theorem none_of_part_undisturbed {p : Effect → Bool} (hlog : ∀ entry, p (.log entry) = false)
    (herror : ∀ kind details, p (.offer (.error kind details)) = false)
    (h : (e.undisturbed world policy request).part p = []) {effect : Effect}
    (hmem : effect ∈ (e.authorize world policy context request operation).effects) :
    p effect = false := by
  have hnil : (e.authorize world policy context request operation).effects.filter p = [] := by
    rw [filter_effects_authorize _ _ _ _ _ _ hlog herror,
      part_guarded (e.orderly_undisturbed world policy request), h]
    split <;> rfl
  exact Bool.eq_false_iff.2 (List.filter_eq_nil_iff.1 hnil effect hmem)

theorem not_relational_of_attributeOnly
    (hm : policy.policy.select request.tenant = .attributeOnly) {effect : Effect}
    (h : effect ∈ (e.authorize world policy context request operation).effects) :
    effect.isRelational = false := by
  refine none_of_part_undisturbed (fun _ => rfl) (fun _ _ => rfl) ?_ h
  rw [undisturbed, part_undisturbed, if_pos hm]

/-- Where the relationship side is asked alone, permissions are fetched only to stand in for it. -/
theorem outage_of_fetch (hm : policy.policy.select request.tenant = .relationshipOnly)
    {subject tenant : String}
    (h : .fetch subject tenant ∈
      (e.authorize world policy context request operation).effects) :
    e.fallback = true ∧
      ∃ outage, e.relationshipResult world request = .error outage ∧ outage.isOutage = true := by
  by_cases hout : ∃ outage, e.relationshipResult world request = .error outage ∧
      e.mayFallBack outage = true
  · obtain ⟨outage, hr, hmay⟩ := hout
    have hmay := Bool.and_eq_true_iff.1 hmay
    exact ⟨hmay.1, outage, hr, hmay.2⟩
  · -- the attribute side is left out, so that nothing is fetched
    have hside := e.relationshipSide_not_fetch world request
    have hnone : (e.undisturbed world policy request).part Effect.isFetch = [] := by
      rw [undisturbed, hm]
      refine Eq.trans (Run.part_andThenAt_of_nil fun t side hend => ?_) (Run.part_eq_nil hside)
      rw [ending_relationshipSide] at hend
      cases hend
      cases hr : e.relationshipResult world request with
      | ok decision => rfl
      | error outage =>
        have hmay : ¬ e.mayFallBack outage = true := fun hmay => hout ⟨outage, hr, hmay⟩
        simp only [hmay]
        rfl
    cases none_of_part_undisturbed (fun _ => rfl) (fun _ _ => rfl) hnone h

theorem filterMap_query?_questions :
    ((e.questions world request).map Prod.snd).filterMap Effect.query? =
      e.relationships.queries world.relationships request.principal e.catalog := by
  have hchecks (n : Nat) (queries : List CheckQuery) :
      (queries.map fun q => (n, Effect.check q)).filterMap (Effect.query? ∘ Prod.snd) = queries := by
    rw [List.filterMap_map]
    exact List.filterMap_some
  rw [questions_eq, List.filterMap_map, List.filterMap_append, hchecks]
  show (e.relationships.lookupTrace world.relationships request.tenant).filterMap
    (fun x => x.2.query?) ++ _ = _
  rw [RelationshipSide.filterMap_query?_lookupTrace, List.nil_append]

theorem filterMap_query?_relational (effects : List Effect) :
    (effects.filter Effect.isRelational).filterMap Effect.query? =
      effects.filterMap Effect.query? := by
  rw [List.filterMap_filter]
  congr 1
  funext effect
  cases effect <;> rfl

/-- A resolution that is over in time makes its checks, each once. -/
theorem queries_of_resolvesInTime (h : e.ResolvesInTime world context request)
    (hm : policy.policy.select request.tenant ≠ .attributeOnly) :
    (e.authorize world policy context request operation).effects.filterMap Effect.query? =
      e.relationships.queries world.relationships request.principal e.catalog := by
  rw [← filterMap_query?_relational, relational_of_resolvesInTime h hm, filterMap_query?_questions]

theorem check_of_mem_queries (h : e.ResolvesInTime world context request)
    (hm : policy.policy.select request.tenant ≠ .attributeOnly) {query : CheckQuery}
    (hquery : query ∈
      e.relationships.queries world.relationships request.principal e.catalog) :
    .check query ∈ (e.authorize world policy context request operation).effects := by
  have hmem : query ∈ (e.authorize world policy context request operation).effects.filterMap
      Effect.query? := by
    rw [queries_of_resolvesInTime h hm]
    exact hquery
  obtain ⟨effect, heffect, hq⟩ := List.mem_filterMap.1 hmem
  rwa [Effect.query?_eq_some.1 hq] at heffect

theorem mem_queries_of_check {query : CheckQuery}
    (h : .check query ∈ (e.authorize world policy context request operation).effects) :
    query ∈ e.relationships.queries world.relationships request.principal e.catalog := by
  have hmem : Effect.check query ∈ (e.questions world request).map Prod.snd :=
    relational_isPrefix.subset (List.mem_filter.2 ⟨h, rfl⟩)
  rw [← filterMap_query?_questions]
  exact List.mem_filterMap.2 ⟨_, hmem, rfl⟩

theorem answer_of_found {tenant : String} {workspace : Workspace}
    (h : .found tenant workspace ∈
      (e.authorize world policy context request operation).effects) :
    tenant = request.tenant ∧
      ∃ t, world.relationships.workspace = .asked (.after t (.ok workspace)) := by
  have hmem : Effect.found tenant workspace ∈ (e.questions world request).map Prod.snd :=
    relational_isPrefix.subset (List.mem_filter.2 ⟨h, rfl⟩)
  rw [questions_eq, List.map_append] at hmem
  refine RelationshipSide.found_lookupTrace _ _ _ ((List.mem_append.1 hmem).resolve_right ?_)
  rw [List.map_map]
  intro hcheck
  obtain ⟨query, _, hquery⟩ := List.mem_map.1 hcheck
  cases hquery

/-- The workspace of a check was remembered, or it was found earlier in the same call. -/
theorem found_before_check {before after : List Effect} {query : CheckQuery}
    (h : (e.authorize world policy context request operation).effects =
      before ++ .check query :: after) :
    world.relationships.workspace = .remembered query.workspace ∨
      .found request.tenant query.workspace ∈ before := by
  have hcheck : .check query ∈
      (e.authorize world policy context request operation).effects := by
    rw [h]
    exact List.mem_append_right _ List.mem_cons_self
  have hquery := mem_queries_of_check hcheck
  have hprefix : (e.authorize world policy context request operation).effects.filter
      Effect.isRelational <+: (e.questions world request).map Prod.snd := relational_isPrefix
  obtain ⟨rest, hrest⟩ := hprefix
  rw [h, List.filter_append, List.filter_cons_of_pos rfl, questions_eq, List.map_append] at hrest
  unfold RelationshipSide.queries at hquery hrest
  unfold RelationshipSide.lookupTrace at hrest
  cases hw : e.relationships.workspaceInTime world.relationships with
  | error reason =>
    rw [hw] at hquery
    cases hquery
  | ok workspace =>
    rw [hw] at hquery
    obtain ⟨t, _, rfl⟩ := List.mem_map.1 hquery
    cases ha : world.relationships.workspace with
    | remembered workspace' =>
      rw [RelationshipSide.workspaceInTime, ha] at hw
      cases hw
      exact .inl rfl
    | asked reply =>
      -- the lookup and its answer stand first, and neither of them is the check
      rw [ha, hw] at hrest
      right
      cases hb : before.filter Effect.isRelational with
      | nil => simp [hb] at hrest
      | cons x xs =>
        cases xs with
        | nil => simp [hb] at hrest
        | cons y ys =>
          simp only [hb, List.cons_append, List.map_cons, List.cons.injEq] at hrest
          have hy : Effect.found request.tenant workspace ∈ before.filter Effect.isRelational := by
            rw [hb, ← hrest.2.1]
            exact List.mem_cons_of_mem _ List.mem_cons_self
          exact (List.mem_filter.1 hy).1

end Calls

end Engine

end ScopedAccess
