import ScopedAccess.Proofs.Refresher

/-!
# ScopedAccess.Proofs.Freshness

How fresh the policy of an instance is while calls come and go.

* `Instance.Polls`: the refresher of an instance polls, and nobody else installs a policy. So it is
  from the start (`polls_of_start`), through every call (`Polls.play`), while time passes
  (`Polls.advance`) and when the background tasks end (`Polls.shutdown`).
* `Instance.Polls.inForce`: the policy in force is then the last one brought by the polls completed,
  and these are behind the clock by one poll at most.
-/

namespace ScopedAccess

namespace Refreshing

theorem Reachable.runUntil {p : Polling} {r : Rollout} {now target n : Nat}
    (h : Reachable p ⟨r, now, n⟩) (hle : now ≤ target) :
    ∃ m, Reachable p ⟨(r.runUntil now target).1, target, m⟩ ∧
      (r.runUntil now target).1.Idle target := by
  obtain ⟨task, hs⟩ := sound_of_reachable h
  obtain ⟨m, hruns, hidle⟩ := hs.runUntil hle
  exact ⟨m, reachable_of_runs h hruns, hidle⟩

end Refreshing

namespace Instance

open PolicySnapshot (changesAlong)

variable {i : Instance} {p : Polling}

/-- The policy of an instance is kept fresh by its refresher, and by nobody else. -/
def Polls (i : Instance) (p : Polling) : Prop :=
  ∃ n, Refreshing.Reachable p ⟨i.rollout, i.now, n⟩

theorem rollout_act (i : Instance) (context : CallContext) (effect : Effect) :
    (i.act context effect).rollout = i.rollout := by
  cases effect <;> rfl

theorem rollout_actAll (i : Instance) (effects : List Effect) :
    (i.actAll effects).rollout = i.rollout := by
  induction effects generalizing i with
  | nil => rfl
  | cons effect rest ih =>
    have hrest : (i.actAll (effect :: rest)).rollout = (i.act .background effect).rollout := ih _
    rw [hrest, rollout_act]

theorem rollout_refreshUntil (i : Instance) (target : Nat) :
    (i.refreshUntil target).rollout = (i.rollout.runUntil i.now target).1 :=
  rollout_actAll _ _

theorem Polls.of_same {j : Instance} (h : i.Polls p) (hrollout : j.rollout = i.rollout)
    (hnow : j.now = i.now) : j.Polls p := by
  unfold Polls
  rw [hrollout, hnow]
  exact h

theorem Polls.act (h : i.Polls p) (context : CallContext) (effect : Effect) :
    (i.act context effect).Polls p :=
  h.of_same (i.rollout_act context effect) (i.now_act context effect)

theorem Polls.settle (h : i.Polls p) : i.settle.Polls p := by
  obtain ⟨n, hn⟩ := h
  obtain ⟨m, hm, _⟩ := hn.runUntil (Nat.le_refl _)
  refine ⟨m, ?_⟩
  rw [now_settle, show i.settle.rollout = _ from i.rollout_refreshUntil i.now]
  exact hm

/-- The refresher has run up to an instant after which it waits. -/
theorem Polls.refreshUntil (h : i.Polls p) {target : Nat} (hle : i.now ≤ target) :
    ∃ m, Refreshing.Reachable p ⟨(i.settle.refreshUntil target).rollout, target, m⟩ ∧
      (i.settle.refreshUntil target).rollout.Idle target := by
  obtain ⟨n, hn⟩ := h.settle
  rw [rollout_refreshUntil]
  rw [now_settle] at hn ⊢
  exact hn.runUntil hle

theorem Polls.advance (h : i.Polls p) (millis : Nat) : (i.advance millis).Polls p := by
  have hle : i.now ≤ i.now + millis := Nat.le_add_right _ _
  obtain ⟨m, hm, _⟩ := h.refreshUntil hle
  refine Polls.settle ⟨m, ?_⟩
  show Refreshing.Reachable p
    ⟨(i.settle.refreshUntil (i.now + millis)).rollout, max i.now (i.now + millis), m⟩
  rw [Nat.max_eq_right hle]
  exact hm

/-- Background tasks run before the instant of an effect, and wait from then on. -/
theorem Polls.moveTo (h : i.Polls p) (instant : Nat) : (i.moveTo instant).Polls p := by
  unfold Instance.moveTo
  split
  · exact h
  · rename_i hlater
    obtain ⟨m, hm, hidle⟩ := h.refreshUntil (Nat.le_sub_one_of_lt (Nat.lt_of_not_le hlater))
    refine ⟨m, hm.step (.proceeds (.waits (Nat.sub_le instant 1) fun u hu hlt => ?_))⟩
    have hbefore : u < instant := hlt
    have hafter : instant - 1 ≤ u := hu
    obtain rfl : u = instant - 1 := by omega
    exact hidle

theorem Polls.playTrace (h : i.Polls p) (context : CallContext) (start : Nat)
    (trace : List (Nat × Effect)) : (i.playTrace context start trace).Polls p := by
  induction trace generalizing i with
  | nil => exact h
  | cons x rest ih => exact ih ((h.moveTo (start + x.1)).act context x.2)

theorem Polls.play {α : Type} (h : i.Polls p) (context : CallContext) (r : Run Effect α) :
    (i.play context r).1.Polls p := by
  refine Polls.settle ?_
  unfold playToEnd
  split
  · exact h.playTrace context i.now r.trace
  · exact (h.playTrace context i.now r.trace).moveTo _

theorem Polls.cancelRefresher (h : i.Polls p) : i.cancelRefresher.Polls p := by
  obtain ⟨n, hn⟩ := h
  exact Polls.settle ⟨n, hn.step (.cancels _)⟩

theorem Polls.shutdown (h : i.Polls p) : i.shutdown.Polls p := by
  obtain ⟨n, hn⟩ := h
  have hcanceled : ({ i with rollout := i.rollout.cancel, queue := i.queue.cancel } :
      Instance).Polls p := ⟨n, hn.step (.cancels _)⟩
  exact hcanceled.settle.of_same rfl rfl

theorem polls_of_start {c : Config} {services : Services} {source : PolicySource}
    {logsEvents : Bool} (h : start c services (some source) logsEvents = .ok i) :
    i.Polls ⟨c.policy, source, none, c.refreshInterval, 0⟩ := by
  unfold start at h
  split at h
  · cases h
  · cases h
    exact Polls.settle ⟨0, .spawned⟩

/-- The policy of an instance is the last valid one that its source has brought in time, and the
polls behind it lag by one interval at most, until the refresher is canceled. -/
theorem Polls.inForce (h : i.Polls p) :
    ∃ n, i.policy.policy = (p.brought n).getLastD p.initial ∧
      i.policy.version = 1 + UInt64.ofNat (changesAlong p.initial (p.brought n)) ∧
      (p.interval.isZero = false → i.rollout.isCanceled = false → i.now ≤ p.latest (n + 1)) := by
  obtain ⟨n, hn⟩ := h
  obtain ⟨task, hs⟩ := Refreshing.sound_of_reachable hn
  exact ⟨n, hs.policy_eq, hs.version_eq, fun hzero hcanceled => (hs.punctual hzero hcanceled).2⟩

end Instance

end ScopedAccess
