import ScopedAccess.Proofs.Events
import ScopedAccess.Proofs.Rollout
import ScopedAccess.Proofs.Session

/-!
# ScopedAccess.Proofs.Deployment

Calls to one instance while its policy is replaced and refreshed, in any interleaving.

* `Deployment.Step`: a call begins, an operation touches the policy in force, or anything else that
  can happen in a session.
* `Deployment.Coherent` is what every step preserves: a call goes by the snapshot that the
  operations over at its start had left.
* `Reachable.authorize`, `Reachable.replace`, `Reachable.refresh`: an instance at work, with its
  background task refreshing the policy during its calls, is such a deployment.
* `calls_follow_snapshot`: the version, the mode and all effects of a call.
-/

namespace ScopedAccess

/-- A session with what has been done to its policy. -/
structure Deployment where
  session : Session
  /-- The operations that are over, in order. -/
  operations : List PolicyOperation
  /-- For each call, how many operations were over when it began. -/
  starts : List Nat

namespace Deployment

inductive Step : Deployment → Deployment → Prop where
  | begins (d : Deployment) (context : CallContext) (request : Request) (operation : Operation) :
      Step d { d with
        session := { d.session with
          calls := d.session.calls ++ [d.session.inst.call context request operation] }
        starts := d.starts ++ [d.operations.length] }
  /-- The policy is replaced, or a refresh is over. -/
  | operates {d : Deployment} (op : PolicyOperation) {r : Rollout}
      (h : r.snapshot = op.apply d.session.inst.policy) :
      Step d { d with
        session := { d.session with inst := { d.session.inst with rollout := r } }
        operations := d.operations ++ [op] }
  /-- A call does what it has to do next, a workspace is forgotten, or time passes. -/
  | proceeds {d : Deployment} {s : Session} (h : Session.Step d.session s)
      (hcalls : s.calls = d.session.calls) (hpolicy : s.inst.policy = d.session.inst.policy) :
      Step d { d with session := s }

/-- Deployments that begin with a first policy and an instance that remembers nothing yet. -/
inductive Reachable (p₀ : RolloutPolicy) : Deployment → Prop where
  | starts {i : Instance} (c : Config) (hengine : i.engine = c.engine) (hcache : i.cache = c.cache)
      (hpolicy : i.policy = .first p₀) : Reachable p₀ ⟨⟨i, [], []⟩, [], []⟩
  | step {d d' : Deployment} : Reachable p₀ d → Step d d' → Reachable p₀ d'

/-! ## The invariant -/

/-- The policy in force is what the operations have left, and that of each call what those had left
that were over at its start. -/
structure Coherent (p₀ : RolloutPolicy) (d : Deployment) : Prop where
  session : d.session.Reachable
  current : d.session.inst.policy = (PolicySnapshot.first p₀).after d.operations
  counted : d.starts.length = d.session.calls.length
  begun : ∀ (k n : Nat) (call : Call), d.session.calls[k]? = some call → d.starts[k]? = some n →
    n ≤ d.operations.length ∧
      call.policy = (PolicySnapshot.first p₀).after (d.operations.take n)

section Steps

variable {p₀ : RolloutPolicy} {d : Deployment}

theorem Coherent.begins (h : d.Coherent p₀) (context : CallContext) (request : Request)
    (operation : Operation) :
    Coherent p₀ { d with
      session := { d.session with
        calls := d.session.calls ++ [d.session.inst.call context request operation] }
      starts := d.starts ++ [d.operations.length] } where
  session := h.session.step (.begins d.session context request operation)
  current := h.current
  counted := by rw [List.length_append, List.length_append, h.counted]; rfl
  begun := fun k n call hcall hstart => by
    rcases Session.getElem?_snoc hcall with hcall | ⟨hk, rfl⟩
    · rcases Session.getElem?_snoc hstart with hstart | ⟨hk, _⟩
      · exact h.begun k n call hcall hstart
      · have hlt := (List.getElem?_eq_some_iff.1 hcall).1
        rw [hk, h.counted] at hlt
        exact absurd hlt (Nat.lt_irrefl _)
    · rw [hk, ← h.counted, List.getElem?_concat_length] at hstart
      obtain rfl : d.operations.length = n := Option.some.inj hstart
      rw [List.take_length]
      exact ⟨Nat.le_refl _, h.current⟩

theorem Coherent.operates (h : d.Coherent p₀) (op : PolicyOperation) {r : Rollout}
    (hr : r.snapshot = op.apply d.session.inst.policy) :
    Coherent p₀ { d with
      session := { d.session with inst := { d.session.inst with rollout := r } }
      operations := d.operations ++ [op] } where
  session := h.session.step (.meanwhile ⟨rfl, rfl⟩)
  current := by
    rw [PolicySnapshot.after_append, ← h.current]
    exact hr
  counted := h.counted
  begun := fun k n call hcall hstart => by
    obtain ⟨hn, hpolicy⟩ := h.begun k n call hcall hstart
    rw [List.length_append, List.take_append_of_le_length hn]
    exact ⟨Nat.le_add_right_of_le hn, hpolicy⟩

theorem Coherent.proceeds (h : d.Coherent p₀) {s : Session} (hstep : Session.Step d.session s)
    (hcalls : s.calls = d.session.calls) (hpolicy : s.inst.policy = d.session.inst.policy) :
    Coherent p₀ { d with session := s } where
  session := h.session.step hstep
  current := hpolicy.trans h.current
  counted := h.counted.trans (congrArg _ hcalls.symm)
  begun := fun k n call hcall => h.begun k n call (hcalls ▸ hcall)

theorem step_coherent {d' : Deployment} (h : d.Coherent p₀) (hstep : Step d d') :
    d'.Coherent p₀ := by
  cases hstep with
  | begins context request operation => exact h.begins context request operation
  | operates op hr => exact h.operates op hr
  | proceeds hstep hcalls hpolicy => exact h.proceeds hstep hcalls hpolicy

theorem coherent_of_reachable (h : d.Reachable p₀) : d.Coherent p₀ := by
  induction h with
  | starts c hengine hcache hpolicy =>
    exact ⟨.starts c hengine hcache, hpolicy, rfl, fun _ _ _ hcall => nomatch hcall⟩
  | step _ hstep ih => exact step_coherent ih hstep

end Steps

/-! ## Instances at work -/

section Runs

variable {p₀ : RolloutPolicy} {d : Deployment} {s : Session} {k : Nat} {call : Call}

/-- A deployment goes on to a session without new calls, while only refreshes touch the policy. -/
def LeadsTo (p₀ : RolloutPolicy) (d : Deployment) (s : Session) : Prop :=
  ∃ ops : List PolicyOperation, (∀ op ∈ ops, op.isRefresh = true) ∧
    Reachable p₀ ⟨s, d.operations ++ ops, d.starts⟩

theorem Reachable.leadsTo (h : d.Reachable p₀) : d.LeadsTo p₀ d.session := by
  refine ⟨[], nofun, ?_⟩
  rw [List.append_nil]
  exact h

theorem Reachable.operate (h : d.Reachable p₀) (ops : List PolicyOperation) :
    ∃ r : Rollout, r.snapshot = d.session.inst.policy.after ops ∧
      Reachable p₀ { d with
        session := { d.session with inst := { d.session.inst with rollout := r } }
        operations := d.operations ++ ops } := by
  induction ops generalizing d with
  | nil =>
    refine ⟨d.session.inst.rollout, rfl, ?_⟩
    rw [List.append_nil]
    exact h
  | cons op rest ih =>
    let r : Rollout :=
      { d.session.inst.rollout with snapshot := op.apply d.session.inst.policy }
    obtain ⟨r', hr', hrest⟩ := ih (h.step (.operates op (r := r) rfl))
    rw [List.append_assoc] at hrest
    exact ⟨r', hr', hrest⟩

/-- What the background tasks do to the policy between two effects is some refreshes. -/
theorem LeadsTo.goesOn (h : d.LeadsTo p₀ s) {i : Instance} (hi : s.inst.GoesOn i) :
    d.LeadsTo p₀ { s with inst := i } := by
  obtain ⟨ops, hops, hreach⟩ := h
  obtain ⟨ops', hops', hpolicy⟩ := hi.refreshed
  obtain ⟨r, hr, hreach'⟩ := hreach.operate ops'
  have hmemory : Instance.SameMemory { s.inst with rollout := r } i :=
    ⟨hi.memory.engine, hi.memory.cache⟩
  refine ⟨ops ++ ops', fun op hop => (List.mem_append.1 hop).elim (hops op) (hops' op), ?_⟩
  rw [← List.append_assoc]
  exact hreach'.step (.proceeds (.meanwhile hmemory) rfl (hpolicy.trans hr.symm))

theorem LeadsTo.acts (h : d.LeadsTo p₀ s) {effect : Effect} (hcall : s.calls[k]? = some call)
    (hnext : Session.doneBy k s.past ++ [effect] <+: (call.work s.inst.engine).effects) :
    d.LeadsTo p₀ { s with
      inst := s.inst.act call.context effect
      past := s.past ++ [(k, effect)] } := by
  obtain ⟨ops, hops, hreach⟩ := h
  exact ⟨ops, hops, hreach.step
    (.proceeds (.acts hcall hnext) rfl (s.inst.policy_act call.context effect))⟩

/-- A call that has only begun can be played to its end, while the policy is refreshed. -/
theorem LeadsTo.play {α : Type} {r : Run Effect α} (h : d.LeadsTo p₀ s)
    (hcall : s.calls[k]? = some call) (hnew : Session.doneBy k s.past = [])
    (htrace : r.trace = (call.work s.inst.engine).trace) :
    d.LeadsTo p₀ ⟨(s.inst.play call.context r).1, s.calls,
      s.past ++ (call.work s.inst.engine).effects.map fun effect => (k, effect)⟩ := by
  have hplayed := Session.playTrace_closed (P := d.LeadsTo p₀)
    (fun s instant h => h.goesOn (s.inst.goesOn_moveTo instant))
    (fun _ _ h hcall hnext => h.acts hcall hnext) s.inst.now r.trace h hcall (by
      rw [hnew, htrace]
      rfl)
  have hpast : (r.trace.map fun x => (k, x.2)) =
      (call.work s.inst.engine).effects.map fun effect => (k, effect) := by
    rw [htrace, Run.effects, List.map_map]
    rfl
  rw [hpast] at hplayed
  exact hplayed.goesOn (s.inst.goesOn_play call.context r)

/-- A whole call of an instance, the policy of which its background task keeps fresh meanwhile. -/
theorem Reachable.authorize (h : d.Reachable p₀) (context : CallContext) (request : Request) :
    let inst := d.session.inst
    let call := inst.call context request .authorize
    (inst.authorize context request).2 = (call.work inst.engine).ending ∧
    LeadsTo p₀ { d with starts := d.starts ++ [d.operations.length] }
      ⟨(inst.authorize context request).1, d.session.calls ++ [call],
        d.session.past ++ (call.work inst.engine).effects.map fun effect =>
          (d.session.calls.length, effect)⟩ := by
  intro inst call
  have hbegun := (h.step (.begins d context request .authorize)).leadsTo
  have howned := (Session.sound_of_reachable (coherent_of_reachable h).session).owned
  have hplayed := hbegun.play (r := call.work inst.engine) List.getElem?_concat_length
    (Session.doneBy_eq_nil howned) rfl
  exact ⟨rfl, hplayed⟩

theorem Reachable.replace (h : d.Reachable p₀) (policy : RolloutPolicy) :
    LeadsTo p₀ { d with operations := d.operations ++ [.replace policy] }
      { d.session with inst := d.session.inst.replace policy } := by
  have hreplaced := h.step (.operates (.replace policy)
    (r := d.session.inst.rollout.replace policy) rfl)
  exact hreplaced.leadsTo.goesOn (Instance.goesOn_settle _)

theorem Reachable.refresh (h : d.Reachable p₀) (fixed : Option RolloutPolicy) :
    d.LeadsTo p₀ { d.session with inst := (d.session.inst.refresh fixed).1 } :=
  h.leadsTo.goesOn (d.session.inst.goesOn_refresh fixed)

theorem leadsTo_of_start {i : Instance} {c : Config} {services : Services}
    {source : Option PolicySource} {logsEvents : Bool}
    (h : Instance.start c services source logsEvents = .ok i) :
    ∃ j : Instance, Reachable c.policy ⟨⟨j, [], []⟩, [], []⟩ ∧
      LeadsTo c.policy ⟨⟨j, [], []⟩, [], []⟩ ⟨i, [], []⟩ := by
  unfold Instance.start at h
  split at h
  · cases h
  · cases h
    have hpolicy : (Instance.rolloutOf c source).snapshot = .first c.policy := by
      cases source <;> rfl
    refine ⟨_, ?_, LeadsTo.goesOn (s := ⟨_, [], []⟩) (Reachable.leadsTo ?_)
      (Instance.goesOn_settle _)⟩
    · exact .starts c rfl rfl hpolicy
    · exact .starts c rfl rfl hpolicy

end Runs

/-! ## Calls and snapshots -/

/-- A call goes by one snapshot in all that it does and returns. -/
structure Follows (e : Engine) (call : Call) (done : List Effect) (s : PolicySnapshot) : Prop where
  effects : done <+: (e.authorize call.world s call.context call.request call.operation).effects
  /-- The version and the mode of its outcome are those of the snapshot. -/
  outcome : ∀ outcome, (call.work e).value? = some (.ok outcome) →
    outcome.policyVersion = s.version ∧ outcome.mode = s.policy.select call.request.tenant
  /-- The mode decides which side counts, and whether the other may stand in for it. -/
  verdict : ∀ x, x ≠ .error .canceled → (call.work e).value? = some x →
    x = Engine.returned (s.policy.select call.request.tenant) s.version
      (e.verdict (s.policy.select call.request.tenant)
        (e.attributeSideOf call.world call.request) (e.relationshipResult call.world call.request))
  /-- Whom it has asked when it is over. -/
  consulted : (call.work e).value? ≠ some (.error .canceled) → done = (call.work e).effects →
    done.filter Effect.isFetch =
        (if e.waitsForAttribute call.world call.request (s.policy.select call.request.tenant) then
          [.fetch call.request.subject call.request.tenant] else []) ∧
      done.filter Effect.isRelational =
        if s.policy.select call.request.tenant = .attributeOnly then []
        else (e.questions call.world call.request).map Prod.snd
  /-- Whom it does not ask at any time. -/
  unasked : s.policy.select call.request.tenant = .attributeOnly →
    ∀ effect ∈ done, effect.isRelational = false
  standsIn : s.policy.select call.request.tenant = .relationshipOnly →
    ∀ subject tenant, .fetch subject tenant ∈ done → e.fallback = true ∧
      ∃ outage, e.relationshipResult call.world call.request = .error outage ∧
        outage.isOutage = true
  compared : ∀ record, .offer (.comparison record) ∈ done →
    (s.policy.select call.request.tenant).isDual = true ∧
      record = .ofSides call.request (e.attributeSideOf call.world call.request)
        (e.relationshipResult call.world call.request)
        (s.policy.select call.request.tenant).authoritative
  compares : (s.policy.select call.request.tenant).isDual = true →
    ∀ x, x ≠ .error .canceled → (call.work e).value? = some x → done = (call.work e).effects →
      ∃ record, .offer (.comparison record) ∈ done

section Calls

variable {e : Engine} {call : Call} {done : List Effect}

theorem outcome_of_work {outcome : Outcome} (h : (call.work e).value? = some (.ok outcome)) :
    outcome.policyVersion = call.policy.version ∧ outcome.mode = call.mode := by
  have hreturned := Engine.eq_returned_verdict (Engine.not_canceled_of_ok h) h
  cases hv : e.verdict call.mode (e.attributeSideOf call.world call.request)
      (e.relationshipResult call.world call.request) with
  | error error =>
    rw [← Call.mode, hv] at hreturned
    cases hreturned
  | ok resolved =>
    rw [← Call.mode, hv] at hreturned
    cases hreturned
    exact ⟨rfl, rfl⟩

theorem comparison_mem_of_dual (hdual : call.mode.isDual = true) {x : Except AuthzError Outcome}
    (hx : x ≠ .error .canceled) (h : (call.work e).value? = some x) :
    ∃ record, .offer (.comparison record) ∈ (call.work e).effects := by
  have huncanceled : (call.work e).value? ≠ some (.error .canceled) := by
    rw [h]
    exact fun hcanceled => hx (Option.some.inj hcanceled)
  have hcompared : ∃ record,
      .comparison record ∈ (call.work e).events.filter Event.isComparison := by
    rw [Call.work, (Engine.comparisons_of_dual hdual huncanceled h).2.2]
    exact ⟨_, List.mem_singleton_self _⟩
  obtain ⟨record, hmem⟩ := hcompared
  obtain ⟨effect, heffect, hevent⟩ := List.mem_filterMap.1 (List.mem_filter.1 hmem).1
  cases effect with
  | offer event =>
    obtain rfl := Option.some.inj hevent
    exact ⟨_, heffect⟩
  | _ => cases hevent

theorem follows_own (h : done <+: (call.work e).effects) : Follows e call done call.policy where
  effects := h
  outcome := fun _ => outcome_of_work
  verdict := fun x hx hvalue => by
    refine Engine.eq_returned_verdict (fun hcanceled => hx ?_) hvalue
    exact Option.some.inj (hvalue.symm.trans hcanceled)
  consulted := fun huncanceled hall => by
    rw [hall]
    exact Engine.consulted_of_not_canceled huncanceled
  unasked := fun hm _ hmem => Engine.not_relational_of_attributeOnly hm (h.subset hmem)
  standsIn := fun hm _ _ hmem => Engine.outage_of_fetch hm (h.subset hmem)
  compared := fun _ hmem => Engine.eq_of_comparison_mem (h.subset hmem)
  compares := fun hdual _ hx hvalue hall => by
    rw [hall]
    exact comparison_mem_of_dual hdual hx hvalue

end Calls

/-- The snapshot that was in force once some number of the operations were over. -/
def snapshotAt (p₀ : RolloutPolicy) (d : Deployment) (n : Nat) : PolicySnapshot :=
  (PolicySnapshot.first p₀).after (d.operations.take n)

theorem Coherent.begun_at {p₀ : RolloutPolicy} {d : Deployment} {k : Nat} {call : Call}
    (h : d.Coherent p₀) (hcall : d.session.calls[k]? = some call) :
    ∃ n ≤ d.operations.length, d.starts[k]? = some n ∧ call.policy = d.snapshotAt p₀ n := by
  have hk := (List.getElem?_eq_some_iff.1 hcall).1
  rw [← h.counted] at hk
  have hstart := List.getElem?_eq_getElem hk
  obtain ⟨hn, hpolicy⟩ := h.begun k _ call hcall hstart
  exact ⟨_, hn, hstart, hpolicy⟩

/-- Whatever happens to the policy while a call is under way, the call goes by the snapshot that
was in force when it began. Unless the 64 bits of the version have been used up, no other policy
has had the version of its outcome, so that outcomes of one version and tenant have one mode. -/
theorem calls_follow_snapshot {p₀ : RolloutPolicy} {d : Deployment} (h : d.Reachable p₀) {k : Nat}
    {call : Call} (hcall : d.session.calls[k]? = some call) :
    let e := d.session.inst.engine
    ∃ n ≤ d.operations.length, d.starts[k]? = some n ∧
      Follows e call (Session.doneBy k d.session.past) (d.snapshotAt p₀ n) ∧
      ((PolicySnapshot.first p₀).changes d.operations < UInt64.size →
        ∀ outcome, (call.work e).value? = some (.ok outcome) →
          (∀ m, (d.snapshotAt p₀ m).version = outcome.policyVersion →
            (d.snapshotAt p₀ m).policy.select call.request.tenant = outcome.mode) ∧
          ∀ (j : Nat) (other : Call) (outcome' : Outcome), d.session.calls[j]? = some other →
            (other.work e).value? = some (.ok outcome') →
            other.request.tenant = call.request.tenant →
            outcome'.policyVersion = outcome.policyVersion → outcome'.mode = outcome.mode) := by
  intro e
  have hcoherent := coherent_of_reachable h
  have hsound := Session.sound_of_reachable hcoherent.session
  obtain ⟨n, hn, hstart, hpolicy⟩ := hcoherent.begun_at hcall
  refine ⟨n, hn, hstart, hpolicy ▸ follows_own (hsound.follows k call hcall), ?_⟩
  intro hfew outcome houtcome
  obtain ⟨hversion, hmode⟩ := outcome_of_work houtcome
  have hone : ∀ m, (d.snapshotAt p₀ m).version = outcome.policyVersion →
      (d.snapshotAt p₀ m).policy.select call.request.tenant = outcome.mode := by
    intro m hm
    rw [hversion, hpolicy] at hm
    rw [hmode, Call.mode, hpolicy]
    exact congrArg (RolloutPolicy.select · call.request.tenant)
      (PolicySnapshot.policy_eq_of_version_eq (List.take_prefix m _) (List.take_prefix n _) hfew hm)
  refine ⟨hone, fun j other outcome' hother houtcome' htenant hsame => ?_⟩
  obtain ⟨m, _, _, hpolicy'⟩ := hcoherent.begun_at hother
  obtain ⟨hversion', hmode'⟩ := outcome_of_work houtcome'
  rw [hversion', hpolicy'] at hsame
  rw [hmode', Call.mode, hpolicy', htenant]
  exact hone m hsame

/-- A call whose tenant is moved to another mode before it asks anybody, and a call after it. -/
theorem calls_follow_snapshot_of_swap :
    let services : Services :=
      ⟨fun _ _ => .after 90 (.ok [⟨"run:read", []⟩]), fun _ => .after 40 (.ok ⟨"ws-1"⟩),
        fun _ => .after 10 (.ok true), fun _ => []⟩
    let c : Config := { Config.standard with catalog := .ofIds ["tasks"] }
    let enforced : RolloutPolicy := .fixed .dualEnforceNew
    let i : Instance :=
      ⟨c.engine, services, .create (.fixed .attributeOnly) ⟨[]⟩, c.cache, .create 8 .running, false,
        0, []⟩
    let j : Instance := { i with rollout := i.rollout.replace enforced }
    let alice := i.call .background ⟨"alice", .user, "1000", "run:read"⟩ .authorize
    let bob := j.call .background ⟨"bob", .user, "1000", "run:read"⟩ .authorize
    ∃ d : Deployment, d.Reachable (.fixed .attributeOnly) ∧ d.operations = [.replace enforced] ∧
      d.session.calls = [alice, bob] ∧ d.session.inst.engine = c.engine ∧
      Session.doneBy 0 d.session.past <+: (alice.work c.engine).effects ∧
      (∃ outcome, (alice.work c.engine).value? = some (.ok outcome) ∧
        outcome.policyVersion = 1 ∧ outcome.mode = .attributeOnly) ∧
      ∃ outcome, (bob.work c.engine).value? = some (.ok outcome) ∧
        outcome.policyVersion = 2 ∧ outcome.mode = .dualEnforceNew := by
  intro services c enforced i j alice bob
  have hbegun : Reachable (.fixed .attributeOnly)
      ⟨⟨j, [alice, bob], []⟩, [.replace enforced], [0, 1]⟩ :=
    .step (.step (.step (.starts c rfl rfl rfl) (.begins _ .background alice.request .authorize))
      (.operates (.replace enforced) rfl)) (.begins _ .background bob.request .authorize)
  have hnext : [.log (Engine.modeLog alice.request .attributeOnly)] <+:
      (alice.work c.engine).effects := ⟨_, rfl⟩
  have halice : [alice, bob][0]? = some alice := rfl
  have hgone := hbegun.step (.proceeds (.acts halice hnext) rfl rfl)
  have hreturns (call : Call) (h : (call.work c.engine).value?.map Except.isOk = some true) :
      ∃ outcome, (call.work c.engine).value? = some (.ok outcome) := by
    obtain ⟨x, hx, hok⟩ := Option.map_eq_some_iff.1 h
    cases x with
    | ok outcome => exact ⟨outcome, hx⟩
    | error error => cases hok
  obtain ⟨outcome, houtcome⟩ := hreturns alice (by decide +kernel)
  obtain ⟨outcome', houtcome'⟩ := hreturns bob (by decide +kernel)
  obtain ⟨n, _, hn, hfollows, _⟩ := calls_follow_snapshot hgone (k := 0) rfl
  obtain ⟨n', _, hn', hfollows', _⟩ := calls_follow_snapshot hgone (k := 1) rfl
  cases hn
  cases hn'
  exact ⟨_, hgone, rfl, rfl, rfl, hfollows.effects, ⟨outcome, houtcome, hfollows.outcome _ houtcome⟩,
    outcome', houtcome', hfollows'.outcome _ houtcome'⟩

end Deployment

end ScopedAccess
