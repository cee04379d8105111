import ScopedAccess.Proofs.Instance
import ScopedAccess.Proofs.PolicyHistory

/-!
# ScopedAccess.Proofs.Rollout

What happens to the policy in force while nobody replaces it.

* `PolicySnapshot.Refreshed`: one snapshot leads to another by refreshes alone.
* `Rollout.refreshed_runUntil`: whatever the background task does up to an instant, it refreshes.
* `Instance.GoesOn`: an instance whose background tasks go on. So it does between the effects of a
  piece of work (`goesOn_moveTo`) and while it fetches a policy (`goesOn_refresh`).
-/

namespace ScopedAccess

namespace PolicySnapshot

/-- One snapshot leads to another by refreshes alone. -/
def Refreshed (s s' : PolicySnapshot) : Prop :=
  ∃ ops : List PolicyOperation, (∀ op ∈ ops, op.isRefresh = true) ∧ s' = s.after ops

theorem Refreshed.refl (s : PolicySnapshot) : s.Refreshed s := ⟨[], nofun, rfl⟩

theorem Refreshed.trans {s s' s'' : PolicySnapshot} (h : s.Refreshed s') (h' : s'.Refreshed s'') :
    s.Refreshed s'' := by
  obtain ⟨ops, hops, rfl⟩ := h
  obtain ⟨ops', hops', rfl⟩ := h'
  refine ⟨ops ++ ops', fun op hop => ?_, (after_append s ops ops').symm⟩
  exact (List.mem_append.1 hop).elim (hops op) (hops' op)

theorem refreshed_refresh (s : PolicySnapshot) (fetched : FetchedPolicy) :
    s.Refreshed (s.refresh fetched) := by
  refine ⟨[.refresh (some fetched)], fun op hop => ?_, rfl⟩
  rw [List.mem_singleton.1 hop]
  rfl

end PolicySnapshot

namespace Rollout

variable {r r' : Rollout} {now : Nat} {effects : List Effect}

theorem snapshot_fetch (r : Rollout) (fixed : Option RolloutPolicy) :
    (r.fetch fixed).2.1.snapshot = r.snapshot := by
  cases fixed <;> rfl

theorem snapshot_beginFetch (r : Rollout) (task : Refresher) (now : Nat) :
    (r.beginFetch task now).1.snapshot = r.snapshot :=
  r.snapshot_fetch task.fixed

/-- Of the steps of the task, only one that brings a policy touches the one in force. -/
theorem Acts.refreshed (h : r.Acts now r' effects) : r.snapshot.Refreshed r'.snapshot := by
  cases h with
  | ends => exact .refl _
  | begins =>
    rw [snapshot_beginFetch]
    exact .refl _
  | brings => exact r.snapshot.refreshed_refresh _
  | givesUp => exact .refl _

theorem refreshed_steps (now fuel : Nat) (r : Rollout) :
    r.snapshot.Refreshed (steps now fuel r).1.snapshot := by
  induction fuel generalizing r with
  | zero => exact .refl _
  | succ fuel ih =>
    unfold steps
    split
    · exact .refl _
    · rename_i r' effects hstep
      exact (acts_of_step? hstep).refreshed.trans (ih r')

theorem refreshed_settle (r : Rollout) (now : Nat) :
    r.snapshot.Refreshed (r.settle now).1.snapshot := by
  unfold settle
  split
  · exact .refl _
  · exact refreshed_steps _ _ _

theorem refreshed_runFrom (fuel : Nat) (r : Rollout) (target : Nat) :
    r.snapshot.Refreshed (runFrom fuel r target).1.snapshot := by
  induction fuel generalizing r with
  | zero => exact .refl _
  | succ fuel ih =>
    unfold runFrom
    split
    · exact .refl _
    · split
      · exact .refl _
      · exact (r.refreshed_settle _).trans (ih _)

/-- Whatever the background task does up to an instant, it refreshes the policy in force. -/
theorem refreshed_runUntil (r : Rollout) (now target : Nat) :
    r.snapshot.Refreshed (r.runUntil now target).1.snapshot :=
  (r.refreshed_settle now).trans (refreshed_runFrom _ _ _)

end Rollout

namespace Instance

variable {i j k : Instance}

/-- The policy in force. -/
def policy (i : Instance) : PolicySnapshot := i.rollout.snapshot

/-- One instance comes of another while nobody finds or forgets a workspace or replaces the policy:
time passes, events are delivered, and the policy is refreshed. -/
structure GoesOn (i j : Instance) : Prop where
  memory : SameMemory i j
  refreshed : i.policy.Refreshed j.policy

theorem GoesOn.refl (i : Instance) : GoesOn i i := ⟨.refl i, .refl _⟩

theorem GoesOn.trans (hij : GoesOn i j) (hjk : GoesOn j k) : GoesOn i k :=
  ⟨hij.memory.trans hjk.memory, hij.refreshed.trans hjk.refreshed⟩

theorem policy_act (i : Instance) (context : CallContext) (effect : Effect) :
    (i.act context effect).policy = i.policy := by
  cases effect <;> rfl

theorem policy_actAll (i : Instance) (effects : List Effect) :
    (i.actAll effects).policy = i.policy := by
  induction effects generalizing i with
  | nil => rfl
  | cons effect rest ih =>
    have hrest : (i.actAll (effect :: rest)).policy = (i.act .background effect).policy := ih _
    rw [hrest, policy_act]

/-- The background task has gone on, and what it did is carried out. -/
theorem goesOn_actAll {r : Rollout} {effects : List Effect}
    (hr : i.policy.Refreshed r.snapshot) (h : ∀ effect ∈ effects, effect.isPolicyWork = true) :
    GoesOn i ({ i with rollout := r }.actAll effects) := by
  have hrollout : GoesOn i { i with rollout := r } := ⟨⟨rfl, rfl⟩, hr⟩
  refine hrollout.trans ⟨sameMemory_actAll _ _ h, ?_⟩
  rw [policy_actAll]
  exact .refl _

theorem goesOn_refreshUntil (i : Instance) (target : Nat) : GoesOn i (i.refreshUntil target) :=
  goesOn_actAll (i.rollout.refreshed_runUntil i.now target) fun _ => Rollout.only_policyWork

theorem goesOn_settle (i : Instance) : GoesOn i i.settle :=
  ⟨i.sameMemory_settle, (i.goesOn_refreshUntil i.now).refreshed⟩

theorem goesOn_moveTo (i : Instance) (instant : Nat) : GoesOn i (i.moveTo instant) := by
  refine ⟨i.sameMemory_moveTo instant, ?_⟩
  unfold moveTo
  split
  · exact .refl _
  · exact (i.goesOn_settle.trans (i.settle.goesOn_refreshUntil (instant - 1))).refreshed

theorem goesOn_playToEnd {α : Type} (i : Instance) (context : CallContext) (r : Run Effect α) :
    GoesOn (i.playTrace context i.now r.trace) (i.playToEnd context r) := by
  unfold playToEnd
  split
  · exact .refl _
  · exact goesOn_moveTo _ _

theorem goesOn_play {α : Type} (i : Instance) (context : CallContext) (r : Run Effect α) :
    GoesOn (i.playTrace context i.now r.trace) (i.play context r).1 :=
  (i.goesOn_playToEnd context r).trans (goesOn_settle _)

theorem goesOn_await {α : Type} (i : Instance) (context : CallContext) (reply : Reply α) :
    GoesOn i (i.playToEnd context (Run.await reply)) := by
  cases reply with
  | silent => exact .refl i
  | after millis value => exact i.goesOn_moveTo _

theorem goesOn_refresh (i : Instance) (fixed : Option RolloutPolicy) :
    GoesOn i (i.refresh fixed).1 := by
  have hwork : ∀ effect ∈ (i.rollout.fetch fixed).2.2, effect.isPolicyWork = true :=
    fun _ => Rollout.fetch_policyWork
  have hsame := i.rollout.snapshot_fetch fixed
  rw [refresh]
  rcases hfetch : i.rollout.fetch fixed with ⟨reply, rollout, asked⟩
  rw [hfetch] at hwork hsame
  have hrollout : i.policy.Refreshed rollout.snapshot := by
    rw [hsame]
    exact .refl _
  have hwaits := (goesOn_actAll hrollout hwork).trans (goesOn_await _ .background reply)
  cases reply with
  | silent => exact hwaits.trans (goesOn_settle _)
  | after millis fetched =>
    refine (hwaits.trans (goesOn_actAll ?_ fun _ => Rollout.accept_policyWork)).trans
      (goesOn_settle _)
    exact PolicySnapshot.refreshed_refresh _ fetched

end Instance

end ScopedAccess
