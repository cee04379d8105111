import ScopedAccess.Proofs.Instance

/-!
# ScopedAccess.Proofs.Session

Any number of calls to one instance, in any interleaving, and what they ask the relationship
services.

* `Session.Step`: a call begins, a call does what it has to do next, a workspace is forgotten, or
  time passes and everything but the engine and the workspaces remembered changes.
* `Session.Sound` is what every step preserves: what is remembered for a tenant, the resolver has
  answered for that tenant.
* `Reachable.play`: the calls of an instance, one after another, are such a session.
* `checks_stay_with_tenant`: the checks of every call.
-/

namespace ScopedAccess

/-- An authorization call, with the services and the policy it began under. -/
structure Call where
  services : Services
  remembered : Option Workspace
  policy : PolicySnapshot
  context : CallContext
  request : Request
  operation : Operation

namespace Call

def world (c : Call) : World := c.services.world c.remembered c.request

def mode (c : Call) : Mode := c.policy.policy.select c.request.tenant

def work (c : Call) (e : Engine) : Run Effect (Except AuthzError Outcome) :=
  e.authorize c.world c.policy c.context c.request c.operation

end Call

/-- A call that begins now. -/
def Instance.call (i : Instance) (context : CallContext) (request : Request)
    (operation : Operation) : Call :=
  ⟨i.services, i.remembered request.tenant, i.rollout.snapshot, context, request, operation⟩

/-- An instance with the calls made to it. -/
structure Session where
  inst : Instance
  calls : List Call
  /-- What has been done so far, in order, and by which call. -/
  past : List (Nat × Effect)

namespace Session

/-- What one call has done so far. -/
def doneBy (k : Nat) (past : List (Nat × Effect)) : List Effect :=
  (past.filter fun x => x.1 == k).map Prod.snd

/-- The resolver was asked for the workspace of a tenant, on behalf of a call for that tenant, and
this is its answer. -/
def Answered (calls : List Call) (past : List (Nat × Effect)) (tenant : String)
    (workspace : Workspace) : Prop :=
  ∃ j call, calls[j]? = some call ∧ call.request.tenant = tenant ∧
    (∃ t, call.services.workspace tenant = .after t (.ok workspace)) ∧
    (j, .found tenant workspace) ∈ past

inductive Step : Session → Session → Prop where
  /-- A call begins, and goes by what is remembered for its tenant then. -/
  | begins (s : Session) (context : CallContext) (request : Request) (operation : Operation) :
      Step s { s with calls := s.calls ++ [s.inst.call context request operation] }
  /-- A call does what it has to do next. -/
  | acts {s : Session} {k : Nat} {call : Call} {effect : Effect} (hcall : s.calls[k]? = some call)
      (hnext : doneBy k s.past ++ [effect] <+: (call.work s.inst.engine).effects) :
      Step s { s with
        inst := s.inst.act call.context effect
        past := s.past ++ [(k, effect)] }
  | forgets (s : Session) (tenant : String) :
      Step s { s with inst := s.inst.invalidate tenant }
  /-- Time passes, the services answer differently, and policies come and go. -/
  | meanwhile {s : Session} {i : Instance} (h : s.inst.SameMemory i) : Step s { s with inst := i }

/-- Sessions that begin with an instance that remembers nothing yet, whatever it is set up with. -/
inductive Reachable : Session → Prop where
  | starts {i : Instance} (c : Config) (hengine : i.engine = c.engine)
      (hcache : i.cache = c.cache) : Reachable ⟨i, [], []⟩
  | step {s s' : Session} : Reachable s → Step s s' → Reachable s'

theorem reachable_of_start {i : Instance} {c : Config} {services : Services}
    {source : Option PolicySource} {logsEvents : Bool}
    (h : Instance.start c services source logsEvents = .ok i) : Reachable ⟨i, [], []⟩ :=
  .starts c (Instance.memory_of_start h).1 (Instance.memory_of_start h).2

/-! ## Histories -/

section Histories

variable {calls : List Call} {past : List (Nat × Effect)} {tenant : String}
  {workspace : Workspace} {k : Nat}

theorem doneBy_append (k : Nat) (past rest : List (Nat × Effect)) :
    doneBy k (past ++ rest) = doneBy k past ++ doneBy k rest := by
  rw [doneBy, List.filter_append, List.map_append]
  rfl

theorem doneBy_own (k : Nat) (effects : List Effect) :
    doneBy k (effects.map fun effect => (k, effect)) = effects := by
  rw [doneBy, List.filter_eq_self.2, List.map_map]
  · exact List.map_id _
  · intro x hx
    obtain ⟨effect, _, rfl⟩ := List.mem_map.1 hx
    exact beq_self_eq_true k

theorem doneBy_other {j : Nat} (h : j ≠ k) (effects : List Effect) :
    doneBy k (effects.map fun effect => (j, effect)) = [] := by
  rw [doneBy, List.filter_eq_nil_iff.2, List.map_nil]
  intro x hx
  obtain ⟨effect, _, rfl⟩ := List.mem_map.1 hx
  simpa using h

theorem doneBy_snoc (k j : Nat) (effect : Effect) :
    doneBy k (past ++ [(j, effect)]) = doneBy k past ++ if j = k then [effect] else [] := by
  rw [doneBy_append]
  by_cases h : j = k
  · subst h
    rw [if_pos rfl]
    exact congrArg _ (doneBy_own j [effect])
  · rw [if_neg h]
    exact congrArg _ (doneBy_other h [effect])

theorem doneBy_eq_nil (h : ∀ x ∈ past, x.1 < k) : doneBy k past = [] := by
  rw [doneBy, List.filter_eq_nil_iff.2, List.map_nil]
  intro x hx
  have := h x hx
  simp only [beq_iff_eq]
  omega

theorem mem_of_mem_doneBy {effect : Effect} (h : effect ∈ doneBy k past) : (k, effect) ∈ past := by
  obtain ⟨⟨j, effect'⟩, hx, rfl⟩ := List.mem_map.1 h
  obtain ⟨hmem, hj⟩ := List.mem_filter.1 hx
  obtain rfl : j = k := by simpa using hj
  exact hmem

theorem Answered.mono {calls' : List Call} {past' : List (Nat × Effect)}
    (h : Answered calls past tenant workspace) (hc : calls <+: calls') (hp : past ⊆ past') :
    Answered calls' past' tenant workspace := by
  obtain ⟨j, call, hcall, htenant, hanswer, hfound⟩ := h
  obtain ⟨rest, rfl⟩ := hc
  exact ⟨j, call, List.getElem?_append_left (List.getElem?_eq_some_iff.1 hcall).1 ▸ hcall, htenant,
    hanswer, hp hfound⟩

end Histories

/-! ## The invariant -/

/-- Every workspace in use is an answer of the resolver about the same tenant. -/
structure Sound (s : Session) : Prop where
  owned : ∀ x ∈ s.past, x.1 < s.calls.length
  follows : ∀ (k : Nat) (call : Call), s.calls[k]? = some call →
    doneBy k s.past <+: (call.work s.inst.engine).effects
  cached : ∀ c : WorkspaceCache, s.inst.cache = some c → ∀ x ∈ c.entries.entries,
    Answered s.calls s.past x.1 x.2.workspace
  remembered : ∀ (k : Nat) (call : Call) (workspace : Workspace), s.calls[k]? = some call →
    call.remembered = some workspace →
      Answered s.calls s.past call.request.tenant workspace
  checked : ∀ (k : Nat) (call : Call) (before : List (Nat × Effect)) (query : CheckQuery)
    (after : List (Nat × Effect)), s.calls[k]? = some call →
      s.past = before ++ (k, .check query) :: after →
      Answered s.calls before call.request.tenant query.workspace

section Steps

variable {s : Session} {k : Nat} {call : Call} {effect : Effect}

theorem answered_of_found {e : Engine} {calls : List Call} {past : List (Nat × Effect)}
    {tenant : String} {workspace : Workspace} (hcall : calls[k]? = some call)
    (h : .found tenant workspace ∈ (call.work e).effects)
    (hpast : (k, .found tenant workspace) ∈ past) : Answered calls past tenant workspace := by
  obtain ⟨rfl, t, hanswer⟩ := Engine.answer_of_found h
  refine ⟨k, call, hcall, rfl, ⟨t, ?_⟩, hpast⟩
  simp only [Call.world, Services.world, Services.workspaceAnswer] at hanswer
  split at hanswer
  · cases hanswer
  · exact WorkspaceAnswer.asked.inj hanswer

theorem getElem?_snoc {α : Type} {xs : List α} {x y : α} (h : (xs ++ [x])[k]? = some y) :
    xs[k]? = some y ∨ k = xs.length ∧ y = x := by
  rcases Nat.lt_or_ge k xs.length with hk | hk
  · rw [List.getElem?_append_left hk] at h
    exact .inl h
  · rw [List.getElem?_append_right hk] at h
    obtain ⟨hlt, hy⟩ := List.getElem?_eq_some_iff.1 h
    rw [List.length_singleton] at hlt
    refine .inr ⟨by omega, ?_⟩
    rw [← hy, List.getElem_singleton]

theorem Sound.begins (h : s.Sound) (context : CallContext) (request : Request)
    (operation : Operation) :
    Sound { s with calls := s.calls ++ [s.inst.call context request operation] } where
  owned := fun x hx => by
    rw [List.length_append]
    exact Nat.lt_add_right _ (h.owned x hx)
  follows := fun k call hcall => by
    rcases getElem?_snoc hcall with hcall | ⟨rfl, rfl⟩
    · exact h.follows k call hcall
    · rw [doneBy_eq_nil h.owned]
      exact List.nil_prefix
  cached := fun c hc x hx =>
    (h.cached c hc x hx).mono (List.prefix_append _ _) (List.Subset.refl _)
  remembered := fun k call workspace hcall hworkspace => by
    rcases getElem?_snoc hcall with hcall | ⟨rfl, rfl⟩
    · exact (h.remembered k call workspace hcall hworkspace).mono (List.prefix_append _ _)
        (List.Subset.refl _)
    · obtain ⟨c, hc, stored, hstored, rfl⟩ := Instance.mem_of_remembered hworkspace
      exact (h.cached c hc _ hstored).mono (List.prefix_append _ _) (List.Subset.refl _)
  checked := fun k call before query after hcall hpast => by
    rcases getElem?_snoc hcall with hcall | ⟨rfl, rfl⟩
    · exact (h.checked k call before query after hcall hpast).mono (List.prefix_append _ _)
        (List.Subset.refl _)
    · -- a call that has only begun has done nothing
      have hmem : (s.calls.length, .check query) ∈ s.past := by
        rw [hpast]
        exact List.mem_append_right _ List.mem_cons_self
      exact absurd (h.owned _ hmem) (Nat.lt_irrefl _)

/-- A call checks a workspace it remembered when it began or has found itself. -/
theorem Sound.check_answered (h : s.Sound) (hcall : s.calls[k]? = some call) {query : CheckQuery}
    (hnext : doneBy k s.past ++ [.check query] <+: (call.work s.inst.engine).effects) :
    Answered s.calls s.past call.request.tenant query.workspace := by
  obtain ⟨rest, hrest⟩ := hnext
  rw [List.append_assoc] at hrest
  rcases Engine.found_before_check hrest.symm with hremembered | hfound
  · refine h.remembered k call query.workspace hcall ?_
    simp only [Call.world, Services.world, Services.workspaceAnswer] at hremembered
    split at hremembered
    · rename_i hw
      rw [hw, WorkspaceAnswer.remembered.inj hremembered]
    · cases hremembered
  · exact answered_of_found hcall ((h.follows k call hcall).subset hfound)
      (mem_of_mem_doneBy hfound)

theorem Sound.acts (h : s.Sound) (hcall : s.calls[k]? = some call)
    (hnext : doneBy k s.past ++ [effect] <+: (call.work s.inst.engine).effects) :
    Sound { s with
      inst := s.inst.act call.context effect
      past := s.past ++ [(k, effect)] } where
  owned := fun x hx => by
    rcases List.mem_append.1 hx with hx | hx
    · exact h.owned x hx
    · rw [List.mem_singleton.1 hx]
      exact (List.getElem?_eq_some_iff.1 hcall).1
  follows := fun k' call' hcall' => by
    rw [Instance.engine_act, doneBy_snoc]
    by_cases hk : k = k'
    · subst hk
      obtain rfl : call = call' := Option.some.inj (hcall.symm.trans hcall')
      rw [if_pos rfl]
      exact hnext
    · rw [if_neg hk, List.append_nil]
      exact h.follows k' call' hcall'
  cached := fun c hc x hx => by
    have hold (hc : s.inst.cache = some c) :
        Answered s.calls (s.past ++ [(k, effect)]) x.1 x.2.workspace :=
      (h.cached c hc x hx).mono (List.prefix_refl _) (List.subset_append_left _ _)
    cases effect with
    | found tenant workspace =>
      -- what is stored is what the resolver has just answered
      rw [Instance.cache_act_found] at hc
      obtain ⟨c', hc', rfl⟩ := Option.map_eq_some_iff.1 hc
      rcases WorkspaceCache.mem_store hx with rfl | hx
      · exact answered_of_found hcall
          (hnext.subset (List.mem_append_right _ List.mem_cons_self))
          (List.mem_append_right _ List.mem_cons_self)
      · exact (h.cached c' hc' x hx.1).mono (List.prefix_refl _) (List.subset_append_left _ _)
    | _ => exact hold hc
  remembered := fun k' call' workspace hcall' hworkspace =>
    (h.remembered k' call' workspace hcall' hworkspace).mono (List.prefix_refl _)
      (List.subset_append_left _ _)
  checked := fun k' call' before query after hcall' hpast => by
    rcases List.eq_nil_or_concat after with rfl | ⟨after', x, rfl⟩
    · obtain ⟨rfl, hx⟩ := List.append_inj' hpast rfl
      obtain ⟨rfl, rfl⟩ := Prod.mk.inj (List.cons.inj hx).1
      obtain rfl : call = call' := Option.some.inj (hcall.symm.trans hcall')
      exact h.check_answered hcall hnext
    · rw [List.concat_eq_append, ← List.cons_append, ← List.append_assoc] at hpast
      exact h.checked k' call' before query after' hcall' (List.append_inj' hpast rfl).1

theorem Sound.forgets (h : s.Sound) (tenant : String) :
    Sound { s with inst := s.inst.invalidate tenant } where
  owned := h.owned
  follows := fun k call hcall => by
    rw [Instance.engine_invalidate]
    exact h.follows k call hcall
  cached := fun c hc x hx => by
    rw [Instance.cache_invalidate] at hc
    obtain ⟨c', hc', rfl⟩ := Option.map_eq_some_iff.1 hc
    exact h.cached c' hc' x (WorkspaceCache.mem_invalidate hx).1
  remembered := h.remembered
  checked := h.checked

theorem Sound.meanwhile (h : s.Sound) {i : Instance} (hi : s.inst.SameMemory i) :
    Sound { s with inst := i } where
  owned := h.owned
  follows := fun k call hcall => by
    rw [hi.engine]
    exact h.follows k call hcall
  cached := fun c hc => h.cached c (hi.cache.symm.trans hc)
  remembered := h.remembered
  checked := h.checked

theorem step_sound {s' : Session} (h : s.Sound) (hstep : Step s s') : s'.Sound := by
  cases hstep with
  | begins context request operation => exact h.begins context request operation
  | acts hcall hnext => exact h.acts hcall hnext
  | forgets tenant => exact h.forgets tenant
  | meanwhile hi => exact h.meanwhile hi

theorem sound_of_reachable (h : s.Reachable) : s.Sound := by
  induction h with
  | @starts i c hengine hcache =>
    refine ⟨fun _ hx => absurd hx List.not_mem_nil, fun k call hcall => ?_, fun c' hc' x hx => ?_,
      fun k call workspace hcall => ?_, fun k call before query after hcall => ?_⟩
    · cases hcall
    · -- nothing is remembered at first, if anything is ever to be
      rw [hcache, Config.cache] at hc'
      split at hc'
      · cases hc'
      · cases hc'
        cases hx
    · cases hcall
    · cases hcall
  | step _ hstep ih => exact step_sound ih hstep

end Steps

/-! ## Calls one after another -/

section Runs

variable {s : Session} {k : Nat} {call : Call}

/-- Playing what a call has yet to do: before each effect some time passes. What is kept by that and
by the effects of the call is kept by the whole of it. -/
theorem playTrace_closed {P : Session → Prop}
    (hmove : ∀ s instant, P s → P { s with inst := s.inst.moveTo instant })
    (hacts : ∀ (s : Session) (effect : Effect), P s → s.calls[k]? = some call →
      doneBy k s.past ++ [effect] <+: (call.work s.inst.engine).effects →
      P { s with
        inst := s.inst.act call.context effect
        past := s.past ++ [(k, effect)] })
    (start : Nat) (rest : List (Nat × Effect)) (h : P s) (hcall : s.calls[k]? = some call)
    (hwork : doneBy k s.past ++ rest.map Prod.snd = (call.work s.inst.engine).effects) :
    P ⟨s.inst.playTrace call.context start rest, s.calls,
      s.past ++ rest.map fun x => (k, x.2)⟩ := by
  induction rest generalizing s with
  | nil =>
    rw [List.map_nil, List.append_nil]
    exact h
  | cons x rest ih =>
    have hengine : (s.inst.moveTo (start + x.1)).engine = s.inst.engine :=
      (s.inst.sameMemory_moveTo (start + x.1)).engine
    have hnext : doneBy k s.past ++ [x.2] <+:
        (call.work (s.inst.moveTo (start + x.1)).engine).effects := by
      rw [hengine, ← hwork]
      exact ⟨rest.map Prod.snd, by rw [List.append_assoc]; rfl⟩
    have hrest := ih (hacts _ x.2 (hmove s (start + x.1) h) hcall hnext) hcall (by
      rw [Instance.engine_act, hengine, ← hwork, doneBy_snoc, if_pos rfl, List.append_assoc]
      rfl)
    rw [List.append_assoc] at hrest
    exact hrest

theorem Reachable.playTrace (start : Nat) (rest : List (Nat × Effect)) (h : s.Reachable)
    (hcall : s.calls[k]? = some call)
    (hwork : doneBy k s.past ++ rest.map Prod.snd = (call.work s.inst.engine).effects) :
    Reachable ⟨s.inst.playTrace call.context start rest, s.calls,
      s.past ++ rest.map fun x => (k, x.2)⟩ :=
  playTrace_closed (fun s instant h => h.step (.meanwhile (s.inst.sameMemory_moveTo instant)))
    (fun _ _ h hcall hnext => h.step (.acts hcall hnext)) start rest h hcall hwork

theorem Reachable.play {α : Type} {r : Run Effect α} (h : s.Reachable)
    (hcall : s.calls[k]? = some call) (hnew : doneBy k s.past = [])
    (htrace : r.trace = (call.work s.inst.engine).trace) :
    Reachable ⟨(s.inst.play call.context r).1, s.calls,
      s.past ++ (call.work s.inst.engine).effects.map fun effect => (k, effect)⟩ := by
  have hplayed := h.playTrace s.inst.now r.trace hcall (by
    rw [hnew, htrace]
    rfl)
  have hpast : (r.trace.map fun x => (k, x.2)) =
      (call.work s.inst.engine).effects.map fun effect => (k, effect) := by
    rw [htrace, Run.effects, List.map_map]
    rfl
  rw [hpast] at hplayed
  exact hplayed.step (.meanwhile (s.inst.sameMemory_play call.context r))

/-- A call that has only begun can go on to its end. -/
theorem Reachable.finishes (h : s.Reachable) (hcall : s.calls[k]? = some call)
    (hnew : doneBy k s.past = []) :
    ∃ s' : Session, s'.Reachable ∧ s'.calls = s.calls ∧ s'.inst.engine = s.inst.engine ∧
      s'.past = s.past ++ (call.work s.inst.engine).effects.map fun effect => (k, effect) :=
  ⟨_, h.play hcall hnew rfl, rfl, Instance.engine_play _ _ _, rfl⟩

/-- A whole call is a session. -/
theorem Reachable.authorize (h : s.Reachable) (context : CallContext) (request : Request) :
    let call := s.inst.call context request .authorize
    Reachable ⟨(s.inst.authorize context request).1, s.calls ++ [call],
      s.past ++ (call.work s.inst.engine).effects.map fun effect => (s.calls.length, effect)⟩ := by
  intro call
  have hbegun := h.step (.begins s context request .authorize)
  have hnew : doneBy s.calls.length s.past = [] := doneBy_eq_nil (sound_of_reachable h).owned
  have hplayed := hbegun.play (r := call.work s.inst.engine) List.getElem?_concat_length hnew rfl
  exact hplayed

theorem Reachable.hasServiceAccess (h : s.Reachable) (context : CallContext) (request : Request)
    (service : String) :
    let call := s.inst.call context request .hasServiceAccess
    Reachable ⟨(s.inst.hasServiceAccess context request service).1, s.calls ++ [call],
      s.past ++ (call.work s.inst.engine).effects.map fun effect => (s.calls.length, effect)⟩ := by
  intro call
  have hbegun := h.step (.begins s context request .hasServiceAccess)
  have hnew : doneBy s.calls.length s.past = [] := doneBy_eq_nil (sound_of_reachable h).owned
  have hplayed := hbegun.play
    (r := (call.work s.inst.engine).map (s.inst.engine.admits service))
    List.getElem?_concat_length hnew rfl
  exact hplayed

end Runs

/-! ## Checks -/

/-- Whatever else goes on, a call checks only its own principal, the relations of the engine and
workspaces that the resolver has answered with before, asked about the tenant of the call. A
resolution that is over in time makes each of its checks once if it has a workspace, and none
otherwise. Where only the attribute model is asked, nobody is asked about workspaces or relations,
and where only the relationship model is asked, permissions are fetched only to stand in for its
outage. -/
theorem checks_stay_with_tenant {s : Session} (h : s.Reachable) {k : Nat} {call : Call}
    (hcall : s.calls[k]? = some call) :
    let e := s.inst.engine
    let naming := e.relationships.naming
    let r := call.request
    let done := doneBy k s.past
    let answer := e.relationships.workspaceInTime call.world.relationships
    (∀ before query after, s.past = before ++ (k, .check query) :: after →
      query.principal = ⟨r.subjectType, r.subject⟩ ∧
      (naming.orgRelation = some query.relation ∨
        ∃ id ∈ e.catalog.ids, query.relation = naming.relationFor id) ∧
      Answered s.calls before r.tenant query.workspace) ∧
    (call.mode ≠ .attributeOnly →
      ((call.work e).value? ≠ some (.error .canceled) →
        e.ResolvesInTime call.world call.context r) ∧
      (e.ResolvesInTime call.world call.context r → done = (call.work e).effects →
        ∀ workspace, answer = .ok workspace →
          done.filterMap Effect.query? =
            (naming.orgRelation.toList ++ e.catalog.ids.map naming.relationFor).map
              fun relation => ⟨workspace, ⟨r.subjectType, r.subject⟩, relation⟩)) ∧
    (∀ reason, answer = .error reason → done.filterMap Effect.query? = []) ∧
    (call.mode = .attributeOnly → ∀ effect ∈ done, effect.isRelational = false) ∧
    (call.mode = .relationshipOnly → ∀ subject tenant, .fetch subject tenant ∈ done →
      e.fallback = true ∧
      ∃ outage, e.relationshipResult call.world r = .error outage ∧ outage.isOutage = true) := by
  intro e naming r done answer
  have hsound := sound_of_reachable h
  have hdone : done ⊆ (call.work e).effects := (hsound.follows k call hcall).subset
  have hquery {query : CheckQuery} (hmem : .check query ∈ done) :
      query ∈ e.relationships.queries call.world.relationships r.principal e.catalog :=
    Engine.mem_queries_of_check (hdone hmem)
  refine ⟨?_, ?_, ?_, ?_, ?_⟩
  · intro before query after hpast
    have hmem : Effect.check query ∈ done := by
      refine List.mem_map.2 ⟨(k, .check query), List.mem_filter.2 ⟨?_, beq_self_eq_true k⟩, rfl⟩
      rw [hpast]
      exact List.mem_append_right _ List.mem_cons_self
    obtain ⟨hprincipal, hrelation⟩ := RelationshipSide.mem_queries _ _ _ _ (hquery hmem)
    exact ⟨hprincipal, hrelation, hsound.checked k call before query after hcall hpast⟩
  · intro hm
    refine ⟨fun huncanceled => Engine.resolvesInTime_of_not_canceled huncanceled hm, ?_⟩
    intro htime hall workspace hworkspace
    rw [hall, Call.work, Engine.queries_of_resolvesInTime htime hm,
      RelationshipSide.queries_of_workspace _ _ _ _ _ hworkspace]
    rfl
  · intro reason hreason
    refine List.filterMap_eq_nil_iff.2 fun effect hmem => ?_
    cases effect with
    | check query =>
      have hnone := hquery hmem
      rw [RelationshipSide.queries_of_error _ _ _ _ hreason] at hnone
      cases hnone
    | _ => rfl
  · intro hm effect hmem
    exact Engine.not_relational_of_attributeOnly hm (hdone hmem)
  · intro hm subject tenant hmem
    exact Engine.outage_of_fetch hm (hdone hmem)

/-- Two calls for different tenants that begin at the same time. -/
theorem checks_stay_with_tenant_of_two_tenants :
    let services : Services :=
      ⟨fun _ _ => .silent,
        fun tenant => .after 40 (.ok ⟨if tenant = "1000" then "ws-1" else "ws-2"⟩),
        fun _ => .after 10 (.ok true), fun _ => []⟩
    let c : Config :=
      { Config.standard with mode := .relationshipOnly, catalog := .ofIds ["tasks"] }
    let i : Instance :=
      ⟨c.engine, services, Instance.rolloutOf c none, c.cache, .create 8 .running, false, 0, []⟩
    let alice := i.call .background ⟨"alice", .user, "1000", "run:read"⟩ .authorize
    let bob := i.call .background ⟨"bob", .user, "2000", "run:read"⟩ .authorize
    ∃ s : Session, s.Reachable ∧ s.calls = [alice, bob] ∧
      (doneBy 1 s.past).filterMap Effect.query? =
        [⟨⟨"ws-2"⟩, ⟨.user, "bob"⟩, "playbook_dispatcher_run_view"⟩,
          ⟨⟨"ws-2"⟩, ⟨.user, "bob"⟩, "playbook_dispatcher_tasks_run_view"⟩] := by
  intro services c i alice bob
  have hbegun : Reachable ⟨i, [alice, bob], []⟩ :=
    .step (.step (.starts c rfl rfl) (.begins ..)) (.begins ..)
  obtain ⟨t, ht, htcalls, htengine, htpast⟩ := hbegun.finishes (k := 0) rfl rfl
  have hbob : t.calls[1]? = some bob := by rw [htcalls]; rfl
  have hidle : doneBy 1 t.past = [] := by
    rw [htpast]
    exact doneBy_other Nat.zero_ne_one _
  obtain ⟨s, hs, hcalls, hengine, hpast⟩ := ht.finishes hbob hidle
  have hdone : doneBy 1 s.past = (bob.work s.inst.engine).effects := by
    rw [hpast, doneBy_append, hidle, doneBy_own, hengine, List.nil_append]
  have hengine : s.inst.engine = c.engine := hengine.trans htengine
  have hcalls : s.calls = [alice, bob] := hcalls.trans htcalls
  have hbob : s.calls[1]? = some bob := by rw [hcalls]; rfl
  have htime : s.inst.engine.ResolvesInTime bob.world bob.context bob.request :=
    fun _ hinterrupted => nomatch hinterrupted
  have hworkspace : s.inst.engine.relationships.workspaceInTime bob.world.relationships =
      .ok ⟨"ws-2"⟩ := by
    rw [hengine]
    have hin : 40 ≤ c.engine.relationships.lookupPatience.ticks := by decide +kernel
    have hanswer : bob.world.relationships.workspace = .asked (.after 40 (.ok ⟨"ws-2"⟩)) := rfl
    simp only [RelationshipSide.workspaceInTime, hanswer, Reply.within?, hin, if_true]
  refine ⟨s, hs, hcalls, ?_⟩
  rw [((checks_stay_with_tenant hs hbob).2.1 (by decide)).2 htime hdone ⟨"ws-2"⟩ hworkspace,
    hengine]
  decide +kernel

end Session

end ScopedAccess
