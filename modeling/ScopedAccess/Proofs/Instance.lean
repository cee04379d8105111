import ScopedAccess.Instance
import ScopedAccess.Proofs.Queries

/-!
# ScopedAccess.Proofs.Instance

What an instance remembers of the workspaces found, and that its background tasks leave it alone.

* `mem_store`: an entry of a cache was stored for its tenant, and `fresh_of_find?`: an entry that is
  found still counts.
* `SameMemory`: two instances have the same engine and remember the same.
* `Rollout.only_policyWork`: background tasks ask for policies and log, so that `moveTo` and
  `settle` keep what is remembered.
-/

namespace ScopedAccess

namespace NameMap

variable {α : Type} {m : NameMap α} {x : String} {v : α}

theorem mem_of_find? (h : m.find? x = some v) : (x, v) ∈ m.entries := by
  obtain ⟨⟨y, w⟩, hfind, rfl⟩ := Option.map_eq_some_iff.1 h
  have hy : y = x := by simpa using List.find?_some hfind
  rw [← hy]
  exact List.mem_of_find?_eq_some hfind

theorem mem_putSorted {entry : String × α} {entries : List (String × α)}
    (h : entry ∈ putSorted x v entries) : entry = (x, v) ∨ entry ∈ entries := by
  induction entries with
  | nil => exact .inl (List.mem_singleton.1 h)
  | cons e rest ih =>
    obtain ⟨y, w⟩ := e
    unfold putSorted at h
    split at h
    · exact List.mem_cons.1 h
    · split at h
      · exact (List.mem_cons.1 h).imp_right (List.mem_cons_of_mem _)
      · rcases List.mem_cons.1 h with rfl | h
        · exact .inr List.mem_cons_self
        · exact (ih h).imp_right (List.mem_cons_of_mem _)

end NameMap

namespace WorkspaceCache

variable {c : WorkspaceCache} {now : Nat} {tenant : String} {workspace : Workspace}
  {entry : String × StoredWorkspace}

theorem fresh_of_find? (h : c.find? now tenant = some workspace) :
    ∃ stored, (tenant, stored) ∈ c.entries.entries ∧ stored.workspace = workspace ∧
      c.isFresh now stored = true := by
  unfold find? at h
  split at h
  · rename_i stored hfind
    split at h
    · rename_i hfresh
      exact ⟨stored, NameMap.mem_of_find? hfind, Option.some.inj h, hfresh⟩
    · cases h
  · cases h

theorem mem_store (h : entry ∈ (c.store now tenant workspace).entries.entries) :
    entry = (tenant, ⟨workspace, now⟩) ∨
      entry ∈ c.entries.entries ∧ c.isFresh now entry.2 = true :=
  (NameMap.mem_putSorted h).imp_right List.mem_filter.1

theorem mem_invalidate (h : entry ∈ (c.invalidate tenant).entries.entries) :
    entry ∈ c.entries.entries ∧ entry.1 ≠ tenant :=
  (List.mem_filter.1 h).imp_right fun hne => by simpa using hne

end WorkspaceCache

/-- Whether an effect may come from the task that keeps the policy fresh. -/
def Effect.isPolicyWork : Effect → Bool
  | fetchPolicy => true
  | log _ => true
  | _ => false

namespace Rollout

variable {r r' : Rollout} {now : Nat} {effects : List Effect} {effect : Effect}

theorem fetch_policyWork {fixed : Option RolloutPolicy} (h : effect ∈ (r.fetch fixed).2.2) :
    effect.isPolicyWork = true := by
  cases fixed with
  | some policy => cases h
  | none =>
    rw [List.mem_singleton.1 h]
    rfl

theorem accept_policyWork {fetched : FetchedPolicy} (h : effect ∈ (r.accept fetched).2) :
    effect.isPolicyWork = true := by
  obtain ⟨entry, _, rfl⟩ := List.mem_map.1 h
  rfl

theorem failureLog_policyWork {fetched : FetchedPolicy} (h : effect ∈ r.failureLog fetched) :
    effect.isPolicyWork = true := by
  unfold failureLog at h
  split at h
  · cases h
  · rw [List.mem_singleton.1 h]
    rfl

theorem Acts.policyWork (h : r.Acts now r' effects) (hmem : effect ∈ effects) :
    effect.isPolicyWork = true := by
  cases h with
  | ends => cases hmem
  | begins => exact fetch_policyWork hmem
  | brings => exact (List.mem_append.1 hmem).elim accept_policyWork failureLog_policyWork
  | givesUp =>
    rw [List.mem_singleton.1 hmem]
    rfl

theorem steps_policyWork (now fuel : Nat) (r : Rollout) (h : effect ∈ (steps now fuel r).2) :
    effect.isPolicyWork = true := by
  induction fuel generalizing r with
  | zero => cases h
  | succ fuel ih =>
    unfold steps at h
    split at h
    · cases h
    · rename_i r' effects hstep
      exact (List.mem_append.1 h).elim (acts_of_step? hstep).policyWork (ih r')

theorem settle_policyWork (h : effect ∈ (r.settle now).2) : effect.isPolicyWork = true := by
  unfold settle at h
  split at h
  · cases h
  · exact steps_policyWork _ _ _ h

theorem runFrom_policyWork (fuel : Nat) (r : Rollout) (target : Nat)
    (h : effect ∈ (runFrom fuel r target).2) : effect.isPolicyWork = true := by
  induction fuel generalizing r with
  | zero => cases h
  | succ fuel ih =>
    unfold runFrom at h
    split at h
    · cases h
    · split at h
      · cases h
      · exact (List.mem_append.1 h).elim settle_policyWork (ih _)

/-- Whatever the background task does, it asks for policies and logs. -/
theorem only_policyWork {target : Nat} (h : effect ∈ (r.runUntil now target).2) :
    effect.isPolicyWork = true :=
  (List.mem_append.1 h).elim settle_policyWork (runFrom_policyWork _ _ _)

end Rollout

namespace Instance

variable {i j k : Instance} {context : CallContext} {effect : Effect}

/-- Two instances are set up alike and remember the same workspaces. -/
structure SameMemory (i j : Instance) : Prop where
  engine : j.engine = i.engine
  cache : j.cache = i.cache

theorem SameMemory.refl (i : Instance) : SameMemory i i := ⟨rfl, rfl⟩

theorem SameMemory.trans (hij : SameMemory i j) (hjk : SameMemory j k) : SameMemory i k :=
  ⟨hjk.engine.trans hij.engine, hjk.cache.trans hij.cache⟩

theorem engine_act (i : Instance) (context : CallContext) (effect : Effect) :
    (i.act context effect).engine = i.engine := by
  cases effect <;> rfl

theorem cache_act_found (i : Instance) (context : CallContext) (tenant : String)
    (workspace : Workspace) :
    (i.act context (.found tenant workspace)).cache =
      i.cache.map fun (c : WorkspaceCache) => c.store i.now tenant workspace := rfl

/-- Only a workspace that is found changes what is remembered. -/
theorem sameMemory_act (h : ∀ tenant workspace, effect ≠ .found tenant workspace) :
    SameMemory i (i.act context effect) := by
  cases effect with
  | found tenant workspace => exact absurd rfl (h tenant workspace)
  | _ => exact ⟨rfl, rfl⟩

theorem sameMemory_actAll (i : Instance) (effects : List Effect)
    (h : ∀ effect ∈ effects, effect.isPolicyWork = true) : SameMemory i (i.actAll effects) := by
  induction effects generalizing i with
  | nil => exact .refl i
  | cons effect rest ih =>
    have hact : SameMemory i (i.act .background effect) := by
      refine sameMemory_act fun tenant workspace he => ?_
      have hwork := h effect List.mem_cons_self
      rw [he] at hwork
      cases hwork
    exact hact.trans (ih _ fun x hx => h x (List.mem_cons_of_mem _ hx))

theorem sameMemory_refreshUntil (i : Instance) (target : Nat) :
    SameMemory i (i.refreshUntil target) := by
  have hrollout : SameMemory i { i with rollout := (i.rollout.runUntil i.now target).1 } :=
    ⟨rfl, rfl⟩
  exact hrollout.trans (sameMemory_actAll _ _ fun _ => Rollout.only_policyWork)

theorem sameMemory_settle (i : Instance) : SameMemory i i.settle :=
  (i.sameMemory_refreshUntil i.now).trans ⟨rfl, rfl⟩

theorem sameMemory_moveTo (i : Instance) (instant : Nat) : SameMemory i (i.moveTo instant) := by
  unfold moveTo
  split
  · exact .refl i
  · exact (i.sameMemory_settle.trans (i.settle.sameMemory_refreshUntil (instant - 1))).trans
      ⟨rfl, rfl⟩

theorem engine_playTrace (i : Instance) (context : CallContext) (start : Nat)
    (trace : List (Nat × Effect)) : (i.playTrace context start trace).engine = i.engine := by
  induction trace generalizing i with
  | nil => rfl
  | cons x rest ih =>
    have hrest := ih ((i.moveTo (start + x.1)).act context x.2)
    rw [engine_act, (i.sameMemory_moveTo _).engine] at hrest
    exact hrest

theorem sameMemory_play {α : Type} (i : Instance) (context : CallContext) (r : Run Effect α) :
    SameMemory (i.playTrace context i.now r.trace) (i.play context r).1 := by
  refine SameMemory.trans ?_ (sameMemory_settle _)
  unfold playToEnd
  split
  · exact .refl _
  · exact sameMemory_moveTo _ _

theorem engine_play {α : Type} (i : Instance) (context : CallContext) (r : Run Effect α) :
    (i.play context r).1.engine = i.engine := by
  rw [(i.sameMemory_play context r).engine, engine_playTrace]

theorem cache_invalidate (i : Instance) (tenant : String) :
    (i.invalidate tenant).cache =
      i.cache.map fun (c : WorkspaceCache) => c.invalidate tenant :=
  (sameMemory_settle _).cache

theorem engine_invalidate (i : Instance) (tenant : String) :
    (i.invalidate tenant).engine = i.engine :=
  (sameMemory_settle _).engine

theorem memory_of_start {c : Config} {services : Services} {source : Option PolicySource}
    {logsEvents : Bool} (h : start c services source logsEvents = .ok i) :
    i.engine = c.engine ∧ i.cache = c.cache := by
  unfold start at h
  split at h
  · cases h
  · cases h
    exact ⟨(sameMemory_settle _).engine, (sameMemory_settle _).cache⟩

/-! ## Clocks -/

theorem now_act (i : Instance) (context : CallContext) (effect : Effect) :
    (i.act context effect).now = i.now := by
  cases effect <;> rfl

theorem now_actAll (i : Instance) (effects : List Effect) : (i.actAll effects).now = i.now := by
  induction effects generalizing i with
  | nil => rfl
  | cons effect rest ih =>
    have hrest : (i.actAll (effect :: rest)).now = (i.act .background effect).now := ih _
    rw [hrest, now_act]

theorem now_refreshUntil (i : Instance) (target : Nat) : (i.refreshUntil target).now = i.now :=
  now_actAll _ _

theorem now_settle (i : Instance) : i.settle.now = i.now := i.now_refreshUntil i.now

theorem now_moveTo (i : Instance) (instant : Nat) : (i.moveTo instant).now = max i.now instant := by
  unfold moveTo
  split
  · rename_i hle
    exact (Nat.max_eq_left hle).symm
  · rename_i hlt
    exact (Nat.max_eq_right (Nat.le_of_not_le hlt)).symm

theorem now_advance (i : Instance) (millis : Nat) : (i.advance millis).now = i.now + millis := by
  rw [advance, advanceTo, now_settle]
  exact Nat.max_eq_right (Nat.le_add_right _ _)

theorem sameMemory_advance (i : Instance) (millis : Nat) : SameMemory i (i.advance millis) := by
  refine SameMemory.trans ?_ (sameMemory_settle _)
  exact (i.sameMemory_settle.trans (i.settle.sameMemory_refreshUntil (i.now + millis))).trans
    ⟨rfl, rfl⟩

/-! ## What is remembered -/

theorem mem_of_remembered {tenant : String} {workspace : Workspace}
    (h : i.remembered tenant = some workspace) :
    ∃ c, i.cache = some c ∧
      ∃ stored, (tenant, stored) ∈ c.entries.entries ∧ stored.workspace = workspace := by
  unfold remembered at h
  split at h
  · rename_i c hc
    obtain ⟨stored, hstored, hworkspace, _⟩ := WorkspaceCache.fresh_of_find? h
    exact ⟨c, hc, stored, hstored, hworkspace⟩
  · cases h

end Instance

end ScopedAccess
