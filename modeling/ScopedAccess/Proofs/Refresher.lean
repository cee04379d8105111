import Mathlib.Logic.Relation
import ScopedAccess.Proofs.Rollout

/-!
# ScopedAccess.Proofs.Refresher

What the refresher makes of its source, over any number of polls.

* `Polling`: a policy in force at first, a source, and a refresher with its interval. `Refreshing`
  is one of its states at an instant.
* `Step`: the task does something that it may do, time passes while there is nothing, or it is
  canceled. `Reachable` are the states that steps lead to.
* `Sound`: what holds in every one of them. Poll after poll begins no more than an interval after
  the one before it, and the policy in force is the last one that a completed poll brought.
* `Sound.runUntil`: what the program runs up to an instant are such steps, and it waits then.
* `steps_canceled`: a canceled task ends before any time passes, though it may still install what is
  ready (`canceled_may_install`). `step_ends`, `steps_over`: from its end on it installs nothing.
* `polling_exact`: the policy in force and its version after any number of polls.
-/

namespace ScopedAccess

/-! ## Answers and intervals -/

namespace Reply

variable {α : Type} {reply : Reply α} {asked limit t : Nat} {a : α}

theorem le_of_arrival (h : reply.arrival asked = some (t, a)) : asked ≤ t := by
  cases reply with
  | silent => cases h
  | after millis value =>
    cases h
    omega

theorem within?_of_arrival (h : reply.arrival asked = some (t, a)) (hin : t ≤ asked + limit) :
    reply.within? limit = some a := by
  cases reply with
  | silent => cases h
  | after millis value =>
    cases h
    rw [within?, if_pos (by omega)]

theorem within?_of_late (h : ∀ t a, reply.arrival asked = some (t, a) → asked + limit < t) :
    reply.within? limit = none := by
  cases reply with
  | silent => rfl
  | after millis value =>
    have hlate : asked + limit < asked + millis := h _ _ rfl
    rw [within?, if_neg (by omega)]

end Reply

namespace Duration

variable {d : Duration}

theorem wait_pos (h : d.isZero = false) : 0 < d.wait := by
  have hnanos : d.nanos ≠ 0 := by simpa [isZero] using h
  unfold wait
  split <;> omega

theorem wait_le_ticks (d : Duration) : d.wait ≤ d.ticks * 1000000 := by
  unfold ticks
  omega

theorem ticks_pos (h : d.isZero = false) : 0 < d.ticks := by
  have hwait := wait_pos h
  have hticks := d.wait_le_ticks
  omega

end Duration

namespace PolicySource

variable {s : PolicySource} {n : Nat}

/-- The source after some fetches. -/
def after (s : PolicySource) : Nat → PolicySource
  | 0 => s
  | n + 1 => (s.after n).next.2

/-- What a fetch is answered; fetches are counted from zero. -/
def answer (s : PolicySource) (n : Nat) : Reply FetchedPolicy := (s.after n).next.1

theorem answers_after (h : n < s.answers.length) : (s.after n).answers = s.answers.drop n := by
  induction n with
  | zero => rfl
  | succ n ih =>
    have hdrop : (s.after n).answers = s.answers[n] :: s.answers.drop (n + 1) := by
      rw [ih (by omega), List.drop_eq_getElem_cons]
    have hmore : s.answers.drop (n + 1) ≠ [] := by
      rw [Ne, List.drop_eq_nil_iff]
      omega
    obtain ⟨next, rest, hrest⟩ := List.exists_cons_of_ne_nil hmore
    rw [hrest] at hdrop ⊢
    rw [after, PolicySource.next, hdrop]

theorem answer_eq_getElem (h : n < s.answers.length) : s.answer n = s.answers[n] := by
  have hafter := answers_after h
  rw [List.drop_eq_getElem_cons h] at hafter
  rw [answer, PolicySource.next, hafter]
  cases s.answers.drop (n + 1) <;> rfl

end PolicySource

/-! ## Policies and versions after some operations -/

namespace PolicySnapshot

/-- How often a policy gives way to a different one along a list. -/
def changesAlong : RolloutPolicy → List RolloutPolicy → Nat
  | _, [] => 0
  | policy, next :: rest => (policy != next).toNat + changesAlong next rest

/-- The policy in force is the last one installed. -/
theorem policy_after (s : PolicySnapshot) (ops : List PolicyOperation) :
    (s.after ops).policy = (ops.filterMap PolicyOperation.policy?).getLastD s.policy := by
  induction ops generalizing s with
  | nil => rfl
  | cons op rest ih =>
    have hrest : (s.after (op :: rest)).policy = _ := ih (op.apply s)
    rw [hrest, List.filterMap_cons]
    cases hp : op.policy? with
    | none => rw [(apply_of_no_policy hp).1]
    | some policy =>
      rw [(apply_of_policy hp).1, replace_eq]
      exact List.getLastD_cons.symm

theorem changes_eq_changesAlong (s : PolicySnapshot) (ops : List PolicyOperation) :
    s.changes ops = changesAlong s.policy (ops.filterMap PolicyOperation.policy?) := by
  induction ops generalizing s with
  | nil => rfl
  | cons op rest ih =>
    rw [changes, ih, List.filterMap_cons, PolicyOperation.changes]
    cases hp : op.policy? with
    | none =>
      rw [(apply_of_no_policy hp).1]
      exact Nat.zero_add _
    | some policy =>
      rw [(apply_of_policy hp).1, replace_eq]
      rfl

theorem changes_le_length (s : PolicySnapshot) (ops : List PolicyOperation) :
    s.changes ops ≤ ops.length := by
  induction ops generalizing s with
  | nil => exact Nat.le_refl 0
  | cons op rest ih =>
    have hrest := ih (op.apply s)
    have hop := Bool.toNat_le (op.changes s)
    rw [changes, List.length_cons]
    omega

end PolicySnapshot

/-! ## Polls -/

/-- A policy in force at first, and a refresher that starts at an instant. -/
structure Polling where
  initial : RolloutPolicy
  source : PolicySource
  /-- A policy that stands in for the source. -/
  fixed : Option RolloutPolicy
  interval : Duration
  start : Nat

namespace Polling

variable {p : Polling}

def rollout (p : Polling) : Rollout :=
  (Rollout.create p.initial p.source).spawn p.interval p.fixed p.start

/-- What the fetch of a poll is answered; polls are counted from zero. -/
def answer (p : Polling) (n : Nat) : Reply FetchedPolicy :=
  match p.fixed with
  | some policy => .atOnce (.ok policy)
  | none => p.source.answer n

def sourceAfter (p : Polling) (n : Nat) : PolicySource :=
  match p.fixed with
  | some _ => p.source
  | none => p.source.after n

/-- What a poll brings: the answer to its fetch, unless that takes longer than the interval. -/
def outcome (p : Polling) (n : Nat) : Option FetchedPolicy :=
  (p.answer n).within? p.interval.ticks

def operations (p : Polling) (n : Nat) : List PolicyOperation :=
  (List.range n).map fun k => .refresh (p.outcome k)

/-- The valid policies among what the first polls bring. -/
def brought (p : Polling) (n : Nat) : List RolloutPolicy :=
  (p.operations n).filterMap PolicyOperation.policy?

/-- The instant by which so many polls are completed. -/
def latest (p : Polling) (n : Nat) : Nat := p.start + p.interval.ticks * n

theorem latest_succ (p : Polling) (n : Nat) :
    p.latest (n + 1) = p.latest n + p.interval.ticks := by
  rw [latest, latest, Nat.mul_succ, Nat.add_assoc]

theorem operations_succ (p : Polling) (n : Nat) :
    p.operations (n + 1) = p.operations n ++ [.refresh (p.outcome n)] := by
  rw [operations, List.range_succ, List.map_append]
  rfl

/-- As long as the answers of the source last, the polls bring those of them that are in time. -/
theorem operations_eq {n : Nat} (hfixed : p.fixed = none) (hn : n ≤ p.source.answers.length) :
    p.operations n = (p.source.answers.take n).map fun reply =>
      .refresh (reply.within? p.interval.ticks) := by
  refine List.ext_getElem (by simp [operations, hn]) fun k hk _ => ?_
  have hk : k < n := by simpa [operations] using hk
  have hanswer : p.answer k = p.source.answers[k] := by
    rw [answer, hfixed]
    exact PolicySource.answer_eq_getElem (Nat.lt_of_lt_of_le hk hn)
  simp only [operations, outcome, List.getElem_map, List.getElem_range, List.getElem_take, hanswer]

theorem length_operations (p : Polling) (n : Nat) : (p.operations n).length = n := by
  rw [operations, List.length_map, List.length_range]

/-- A poll begins: its fetch is answered as the source has it for this poll. -/
theorem beginFetch_eq {r : Rollout} {task : Refresher} {n : Nat} (hfixed : task.fixed = p.fixed)
    (hinterval : task.interval = p.interval) (hsource : r.source = p.sourceAfter n) (now : Nat) :
    (r.beginFetch task now).1 =
      ⟨r.snapshot, p.sourceAfter (n + 1), some { task with
        tickAt := task.nextTick now
        pending := some ⟨(p.answer n).arrival now, now + p.interval.ticks⟩ }⟩ := by
  unfold Rollout.beginFetch
  rw [hfixed, hinterval]
  unfold sourceAfter at hsource ⊢
  unfold answer
  cases hfixed : p.fixed with
  | some policy =>
    simp only [hfixed] at hsource ⊢
    rw [Rollout.fetch, hsource]
  | none =>
    simp only [hfixed] at hsource ⊢
    rw [Rollout.fetch, hsource]
    rfl

end Polling

namespace Rollout

variable {r r' : Rollout} {task : Refresher} {now : Nat} {effects : List Effect}

/-- The task has nothing to do until it is due. -/
theorem exists_due (hr : r.refresher = some task) (hrunning : task.finished = false)
    (hcanceled : task.canceled = false) :
    ∃ t, r.due = some t ∧ ∀ u, r.Idle u ↔ u < t := by
  simp only [idle_iff, step?_eq_none_iff hr hrunning, Refresher.waits_iff, hcanceled, due, hr,
    Refresher.due, hrunning, true_and, Bool.false_eq_true, if_false]
  cases hpending : task.pending with
  | none =>
    refine ⟨_, rfl, fun u => ?_⟩
    simp only [nanosAt, forall_const, reduceCtorEq, false_implies, implies_true, and_true]
    omega
  | some fetch =>
    obtain ⟨answer, giveUp⟩ := fetch
    cases answer with
    | none => exact ⟨_, rfl, fun u => by simp⟩
    | some x =>
      obtain ⟨t, fetched⟩ := x
      refine ⟨min t giveUp, rfl, fun u => ?_⟩
      simp only [reduceCtorEq, false_implies, Option.some.injEq, forall_eq', Prod.mk.injEq, and_imp,
        forall_apply_eq_imp_iff, true_and]
      omega

/-- Where the task waits, it waits for the instant it is due at, or for good. -/
theorem Idle.due (h : r.Idle now) :
    (∃ t, r.due = some t ∧ now < t ∧ ∀ u, u < t → r.Idle u) ∨ r.due = none ∧ ∀ u, r.Idle u := by
  cases hr : r.refresher with
  | none =>
    refine .inr ⟨by rw [Rollout.due, hr], fun u => ?_⟩
    rw [idle_iff, step?, hr]
  | some task =>
    cases hfinished : task.finished with
    | true =>
      refine .inr ⟨?_, fun u => idle_of_finished hr hfinished⟩
      simp [Rollout.due, hr, Refresher.due, hfinished]
    | false =>
      obtain ⟨t, hdue, hidle⟩ := exists_due hr hfinished (waits_of_idle hr hfinished h).wanted
      exact .inl ⟨t, hdue, (hidle now).1 h, fun u => (hidle u).2⟩

def isFetching (r : Rollout) : Bool := r.refresher.any fun task => task.pending.isSome

def isCanceled (r : Rollout) : Bool := r.refresher.any fun task => task.canceled

def isOver (r : Rollout) : Bool := r.refresher.any fun task => task.finished

theorem isCanceled_eq (hr : r.refresher = some task) : r.isCanceled = task.canceled := by
  rw [isCanceled, hr, Option.any_some]

theorem isOver_eq (hr : r.refresher = some task) : r.isOver = task.finished := by
  rw [isOver, hr, Option.any_some]

theorem isOver_cancel (r : Rollout) : r.cancel.isOver = r.isOver := by
  unfold isOver cancel
  cases r.refresher <;> rfl

theorem isCanceled_cancel (h : r.isCanceled = true) : r.cancel.isCanceled = true := by
  unfold isCanceled cancel at *
  cases hr : r.refresher with
  | none => simp [hr] at h
  | some task => rfl

/-- A canceled task waits only when it is over. -/
theorem Idle.isOver (h : r.Idle now) (hcanceled : r.isCanceled = true) : r.isOver = true := by
  cases hr : r.refresher with
  | none => simp [isCanceled, hr] at hcanceled
  | some task =>
    rw [isCanceled_eq hr] at hcanceled
    rw [isOver_eq hr]
    refine Bool.of_not_eq_false fun hrunning => ?_
    exact h _ _ (.ends hr hrunning hcanceled)

/-- A task that acts is not over, and acting does not cancel it. -/
theorem Acts.tasks (h : r.Acts now r' effects) :
    ∃ task task', r.refresher = some task ∧ r'.refresher = some task' ∧
      task.finished = false ∧ task'.canceled = task.canceled := by
  cases h with
  | ends own running => exact ⟨_, _, own, rfl, running, rfl⟩
  | begins own running => exact ⟨_, _, own, rfl, running, rfl⟩
  | brings own running => exact ⟨_, _, own, rfl, running, rfl⟩
  | givesUp own running => exact ⟨_, _, own, rfl, running, rfl⟩

theorem Acts.isCanceled_eq (h : r.Acts now r' effects) : r'.isCanceled = r.isCanceled := by
  obtain ⟨task, task', own, own', _, hsame⟩ := h.tasks
  rw [Rollout.isCanceled_eq own, Rollout.isCanceled_eq own', hsame]

theorem Acts.isOver_eq_false (h : r.Acts now r' effects) : r.isOver = false := by
  obtain ⟨task, _, own, _, running, _⟩ := h.tasks
  rw [isOver_eq own, running]

/-- The step that ends the task installs nothing, even if a fetch is on its way. -/
theorem Acts.snapshot_of_isOver (h : r.Acts now r' effects) (hover : r'.isOver = true) :
    r'.snapshot = r.snapshot := by
  cases h with
  | ends => rfl
  | begins => exact r.snapshot_beginFetch _ _
  | @brings task _ _ _ _ running =>
    have hfinished : task.finished = true := hover
    rw [running] at hfinished
    cases hfinished
  | givesUp => rfl

/-- Whether a poll is completed between two states: its fetch is over, and the task is not. -/
def completes (r r' : Rollout) : Bool := r.isFetching && !r'.isFetching && !r'.isOver

end Rollout

/-- A refresher at an instant, after so many completed polls. -/
structure Refreshing where
  rollout : Rollout
  now : Nat
  completed : Nat

namespace Refreshing

open PolicySnapshot (changesAlong)

variable {p : Polling} {s s' : Refreshing} {task : Refresher}

/-- The task and the clock go on. -/
inductive Proceeds : Refreshing → Refreshing → Prop where
  | acts {s : Refreshing} {r : Rollout} {effects : List Effect}
      (h : s.rollout.Acts s.now r effects) :
      Proceeds s ⟨r, s.now, s.completed + (s.rollout.completes r).toNat⟩
  /-- Time passes while the task has nothing to do. -/
  | waits {s : Refreshing} {t : Nat} (hle : s.now ≤ t)
      (idle : ∀ u, s.now ≤ u → u < t → s.rollout.Idle u) : Proceeds s { s with now := t }

inductive Step : Refreshing → Refreshing → Prop where
  | proceeds {s s' : Refreshing} (h : Proceeds s s') : Step s s'
  | cancels (s : Refreshing) : Step s { s with rollout := s.rollout.cancel }

inductive Reachable (p : Polling) : Refreshing → Prop where
  | spawned : Reachable p ⟨p.rollout, p.start, 0⟩
  | step {s s' : Refreshing} : Reachable p s → Step s s' → Reachable p s'

/-! ## The invariant -/

/-- A fetch is on its way. It began when the poll before it was over at the latest, and neither its
answer nor the end of the interval has been missed. -/
structure Fetching (p : Polling) (s : Refreshing) (task : Refresher) (asked : Nat) : Prop where
  pending : task.pending =
    some ⟨(p.answer s.completed).arrival asked, asked + p.interval.ticks⟩
  source : s.rollout.source = p.sourceAfter (s.completed + 1)
  tick : task.tickAt ≤ nanosAt (p.latest (s.completed + 1))
  begun : asked ≤ p.latest s.completed
  clock : s.now ≤ asked + p.interval.ticks
  awaited : ∀ t fetched, (p.answer s.completed).arrival asked = some (t, fetched) → s.now ≤ t

/-- What the task is at. -/
inductive Phase (p : Polling) (s : Refreshing) (task : Refresher) : Prop where
  | ended (finished : task.finished = true) (pending : task.pending = none)
      (cause : task.canceled = true ∨ p.interval.isZero = true) : Phase p s task
  | waiting (running : task.finished = false) (pending : task.pending = none)
      (source : s.rollout.source = p.sourceAfter s.completed)
      (tick : task.tickAt ≤ nanosAt (p.latest s.completed))
      (clock : s.now ≤ p.latest s.completed) : Phase p s task
  | fetching {asked : Nat} (running : task.finished = false) (fetch : Fetching p s task asked) :
      Phase p s task

/-- The policy in force is the one that the completed polls have left. -/
structure Sound (p : Polling) (s : Refreshing) (task : Refresher) : Prop where
  refresher : s.rollout.refresher = some task
  interval : task.interval = p.interval
  fixed : task.fixed = p.fixed
  paced : task.finished = false → p.interval.isZero = false
  snapshot : s.rollout.snapshot = (PolicySnapshot.first p.initial).after (p.operations s.completed)
  phase : Phase p s task

theorem nextTick_le {now : Nat} (hinterval : task.interval = p.interval) {n : Nat}
    (htick : task.tickAt ≤ nanosAt (p.latest n)) (hnow : now ≤ p.latest n) :
    task.nextTick now ≤ nanosAt (p.latest (n + 1)) := by
  have hwait := p.interval.wait_le_ticks
  rw [p.latest_succ]
  unfold Refresher.nextTick
  rw [hinterval]
  unfold nanosAt at *
  split <;> omega

theorem sound_spawned (p : Polling) :
    Sound p ⟨p.rollout, p.start, 0⟩ (.create p.interval p.fixed p.start) := by
  refine ⟨rfl, rfl, rfl, id, rfl, ?_⟩
  cases hzero : p.interval.isZero with
  | true => exact .ended hzero rfl (.inr hzero)
  | false =>
    have hlatest : p.latest 0 = p.start := by rw [Polling.latest, Nat.mul_zero, Nat.add_zero]
    refine .waiting hzero rfl ?_ (Nat.le_of_eq ?_) (Nat.le_of_eq ?_)
    · unfold Polling.sourceAfter
      cases p.fixed <;> rfl
    · rw [hlatest]
      rfl
    · exact hlatest.symm

/-- A step that does not complete a poll leaves the completed ones as they are. -/
theorem completed_of_not_completes {r : Rollout} (h : s.rollout.completes r = false) :
    s.completed + (s.rollout.completes r).toNat = s.completed := by
  rw [h]
  rfl

theorem Sound.stops (hs : Sound p s task) (hcanceled : task.canceled = true) :
    Sound p ⟨s.rollout.finish task, s.now, s.completed⟩
      { task with finished := true, pending := none } where
  refresher := rfl
  interval := hs.interval
  fixed := hs.fixed
  paced := nofun
  snapshot := hs.snapshot
  phase := .ended rfl rfl (.inl hcanceled)

theorem Sound.begins (hs : Sound p s task) (hrunning : task.finished = false)
    (hpending : task.pending = none) :
    ∃ task', Sound p ⟨(s.rollout.beginFetch task s.now).1, s.now, s.completed⟩ task' := by
  cases hs.phase with
  | ended finished => rw [hrunning] at finished; cases finished
  | fetching _ fetch =>
    have hsome := fetch.pending
    rw [hpending] at hsome
    cases hsome
  | waiting _ _ source tick clock =>
    rw [Polling.beginFetch_eq hs.fixed hs.interval source s.now]
    refine ⟨_, ⟨rfl, hs.interval, hs.fixed, hs.paced, hs.snapshot, ?_⟩⟩
    exact .fetching hrunning ⟨rfl, rfl, nextTick_le hs.interval tick clock, clock,
      Nat.le_add_right _ _, fun t fetched => Reply.le_of_arrival⟩

theorem Sound.fetching (hs : Sound p s task) {fetch : PendingFetch}
    (hpending : task.pending = some fetch) : ∃ asked, Fetching p s task asked := by
  cases hs.phase with
  | ended _ pending => rw [hpending] at pending; cases pending
  | waiting _ pending => rw [hpending] at pending; cases pending
  | fetching _ fetch => exact ⟨_, fetch⟩

/-- A poll is completed, and the task has made of it what it brought. -/
theorem Sound.completes (hs : Sound p s task) {asked : Nat} (hrunning : task.finished = false)
    (hfetch : Fetching p s task asked) {r : Rollout} (hsource : r.source = s.rollout.source)
    (hrefresher : r.refresher = some { task with pending := none })
    (hsnapshot : r.snapshot =
      (PolicyOperation.refresh (p.outcome s.completed)).apply s.rollout.snapshot) :
    Sound p ⟨r, s.now, s.completed + (s.rollout.completes r).toNat⟩
      { task with pending := none } := by
  have hcompletes : s.rollout.completes r = true := by
    simp [Rollout.completes, Rollout.isFetching, Rollout.isOver, hs.refresher, hrefresher,
      hfetch.pending, hrunning]
  rw [hcompletes]
  refine ⟨hrefresher, hs.interval, hs.fixed, hs.paced, ?_,
    .waiting hrunning rfl (hsource.trans hfetch.source) hfetch.tick ?_⟩
  · show _ = (PolicySnapshot.first p.initial).after (p.operations (s.completed + 1))
    rw [p.operations_succ, PolicySnapshot.after_append, ← hs.snapshot]
    exact hsnapshot
  · have hbegun := hfetch.begun
    have hclock := hfetch.clock
    show s.now ≤ p.latest (s.completed + 1)
    rw [p.latest_succ]
    omega

theorem Sound.acts (hs : Sound p s task) {r : Rollout} {effects : List Effect}
    (h : s.rollout.Acts s.now r effects) :
    ∃ task', Sound p ⟨r, s.now, s.completed + (s.rollout.completes r).toNat⟩ task' := by
  cases h with
  | ends own running canceled =>
    obtain rfl := Option.some.inj (hs.refresher.symm.trans own)
    rw [completed_of_not_completes (by simp [Rollout.completes, Rollout.isOver, Rollout.finish])]
    exact ⟨_, hs.stops canceled⟩
  | begins own running free =>
    obtain rfl := Option.some.inj (hs.refresher.symm.trans own)
    rw [completed_of_not_completes (by simp [Rollout.completes, Rollout.isFetching, own, free])]
    exact hs.begins running free
  | brings own running fetching arrived =>
    -- An answer that is there has arrived just now, so that it is in time.
    obtain rfl := Option.some.inj (hs.refresher.symm.trans own)
    obtain ⟨asked, hfetch⟩ := hs.fetching fetching
    have hanswer : some _ = (p.answer s.completed).arrival asked :=
      (PendingFetch.mk.inj (Option.some.inj (fetching.symm.trans hfetch.pending))).1
    have houtcome := Reply.within?_of_arrival hanswer.symm (Nat.le_trans arrived hfetch.clock)
    exact ⟨_, hs.completes running hfetch rfl rfl (by rw [Polling.outcome, houtcome]; rfl)⟩
  | givesUp own running fetching late missing =>
    obtain rfl := Option.some.inj (hs.refresher.symm.trans own)
    obtain ⟨asked, hfetch⟩ := hs.fetching fetching
    obtain rfl := Option.some.inj (fetching.symm.trans hfetch.pending)
    have houtcome : p.outcome s.completed = none :=
      Reply.within?_of_late fun t fetched ht => Nat.lt_of_le_of_lt late (missing t fetched ht)
    exact ⟨_, hs.completes running hfetch rfl rfl (by rw [houtcome]; rfl)⟩

/-- The task is woken in time: as it has nothing to do before an instant, nothing is missed then. -/
theorem Sound.waits (hs : Sound p s task) {t : Nat} (hle : s.now ≤ t)
    (idle : ∀ u, s.now ≤ u → u < t → s.rollout.Idle u) : Sound p { s with now := t } task := by
  refine ⟨hs.refresher, hs.interval, hs.fixed, hs.paced, hs.snapshot, ?_⟩
  rcases Nat.eq_or_lt_of_le hle with rfl | hlt
  · exact hs.phase
  have hidle := idle (t - 1) (by omega) (by omega)
  cases hs.phase with
  | ended finished pending cause => exact .ended finished pending cause
  | waiting running pending source tick clock =>
    have htick := (Rollout.waits_of_idle hs.refresher running hidle).tick pending
    refine .waiting running pending source tick ?_
    unfold nanosAt at htick tick
    show t ≤ p.latest s.completed
    omega
  | fetching running fetch =>
    have hwaits := Rollout.waits_of_idle hs.refresher running hidle
    refine .fetching running { fetch with clock := ?_, awaited := fun u fetched hu => ?_ }
    · have hgiveUp := hwaits.giveUp _ fetch.pending
      show t ≤ _
      dsimp only at hgiveUp
      omega
    · have hbefore := hwaits.answer _ fetch.pending u fetched hu
      show t ≤ u
      omega

theorem Sound.cancels (hs : Sound p s task) :
    Sound p { s with rollout := s.rollout.cancel } { task with canceled := true } := by
  have hrefresher : s.rollout.cancel.refresher = some { task with canceled := true } := by
    rw [Rollout.cancel, hs.refresher]
    rfl
  refine ⟨hrefresher, hs.interval, hs.fixed, hs.paced, hs.snapshot, ?_⟩
  cases hs.phase with
  | ended finished pending => exact .ended finished pending (.inl rfl)
  | waiting running pending source tick clock =>
    exact .waiting running pending source tick clock
  | fetching running fetch => exact .fetching running { fetch with }

theorem proceeds_sound (h : Proceeds s s') (hs : Sound p s task) : ∃ task', Sound p s' task' := by
  cases h with
  | acts h => exact hs.acts h
  | waits hle idle => exact ⟨task, hs.waits hle idle⟩

theorem step_sound (h : Step s s') (hs : Sound p s task) : ∃ task', Sound p s' task' := by
  cases h with
  | proceeds h => exact proceeds_sound h hs
  | cancels => exact ⟨_, hs.cancels⟩

theorem sound_of_reachable (h : Reachable p s) : ∃ task, Sound p s task := by
  induction h with
  | spawned => exact ⟨_, sound_spawned p⟩
  | step _ hstep ih =>
    obtain ⟨task, hs⟩ := ih
    exact step_sound hstep hs

end Refreshing

/-! ## What the program runs -/

namespace Refresher

variable {task : Refresher} {now : Nat}

/-- How many ticks from one on are due at an instant. -/
def ticksDue (interval : Duration) (tickAt now : Nat) : Nat :=
  if tickAt ≤ nanosAt now then (nanosAt now - tickAt) / interval.wait + 1 else 0

/-- How many steps the task can still take at an instant: two for each tick, one to be done with
the fetch that is on its way, and one to end. -/
def stepsLeft (task : Refresher) (now : Nat) : Nat :=
  if task.finished then 0
  else 2 * ticksDue task.interval task.tickAt now + task.pending.isSome.toNat + 1

theorem ticksDue_nextTick (hpos : 0 < task.interval.wait) (hdue : task.tickAt ≤ nanosAt now) :
    ticksDue task.interval (task.nextTick now) now < ticksDue task.interval task.tickAt now := by
  unfold ticksDue
  rw [if_pos hdue]
  split
  · rename_i hnext
    unfold nextTick at hnext ⊢
    split
    · rename_i hlate
      rw [if_pos hlate] at hnext
      omega
    · rename_i hpunctual
      rw [if_neg hpunctual] at hnext
      rw [Nat.div_eq_sub_div hpos (Nat.le_sub_of_add_le' hnext), Nat.sub_add_eq]
      exact Nat.lt_succ_self _
  · exact Nat.succ_pos _

theorem stepsLeft_le_stepBound (hpos : task.finished = false → 0 < task.interval.wait) :
    task.stepsLeft now ≤ task.stepBound now := by
  unfold stepsLeft stepBound
  cases hfinished : task.finished with
  | true => exact Nat.zero_le _
  | false =>
    have hmax : max task.interval.wait 1 = task.interval.wait := Nat.max_eq_left (hpos hfinished)
    have hpending := Bool.toNat_le task.pending.isSome
    unfold ticksDue
    rw [hmax]
    split
    · contradiction
    · split <;> omega

end Refresher

namespace Rollout

/-- The task cannot act for ever at one instant. -/
theorem Acts.stepsLeft_lt {r r' : Rollout} {now : Nat} {effects : List Effect} {task : Refresher}
    (h : r.Acts now r' effects) (hr : r.refresher = some task)
    (hpos : task.finished = false → 0 < task.interval.wait) {task' : Refresher}
    (hr' : r'.refresher = some task') : task'.stepsLeft now < task.stepsLeft now := by
  cases h with
  | ends own running =>
    obtain rfl := Option.some.inj (hr.symm.trans own)
    obtain rfl := Option.some.inj hr'
    simp [Refresher.stepsLeft, running]
  | begins own running free due =>
    obtain rfl := Option.some.inj (hr.symm.trans own)
    obtain rfl := Option.some.inj hr'
    have hless := Refresher.ticksDue_nextTick (hpos running) due
    simp only [Refresher.stepsLeft, running, free, Bool.false_eq_true, if_false,
      Option.isSome_some, Option.isSome_none, Bool.toNat_true, Bool.toNat_false]
    omega
  | brings own running fetching =>
    obtain rfl := Option.some.inj (hr.symm.trans own)
    obtain rfl := Option.some.inj hr'
    simp [Refresher.stepsLeft, running, fetching]
  | givesUp own running fetching =>
    obtain rfl := Option.some.inj (hr.symm.trans own)
    obtain rfl := Option.some.inj hr'
    simp [Refresher.stepsLeft, running, fetching]

end Rollout

namespace Refreshing

open PolicySnapshot (changesAlong)

variable {p : Polling} {s s' : Refreshing} {task : Refresher}

/-- One state leads to another in which the task waits. -/
def LeadsTo (s : Refreshing) (r : Rollout) (t : Nat) : Prop :=
  ∃ n, Relation.ReflTransGen Proceeds s ⟨r, t, n⟩ ∧ r.Idle t

theorem Sound.wait_pos (hs : Sound p s task) (h : task.finished = false) :
    0 < task.interval.wait := by
  rw [hs.interval]
  exact Duration.wait_pos (hs.paced h)

theorem Sound.steps {fuel : Nat} (hs : Sound p s task) (hfuel : task.stepsLeft s.now ≤ fuel) :
    s.LeadsTo (Rollout.steps s.now fuel s.rollout).1 s.now := by
  induction fuel generalizing s task with
  | zero =>
    refine ⟨s.completed, .refl, fun r effects hacts => ?_⟩
    obtain ⟨task', hs'⟩ := hs.acts hacts
    have hless := hacts.stepsLeft_lt hs.refresher hs.wait_pos hs'.refresher
    omega
  | succ fuel ih =>
    cases hstep : s.rollout.step? s.now with
    | none =>
      rw [Rollout.steps, hstep]
      exact ⟨s.completed, .refl, Rollout.idle_iff.2 hstep⟩
    | some x =>
      have hacts := Rollout.acts_of_step? hstep
      obtain ⟨task', hs'⟩ := hs.acts hacts
      have hless := hacts.stepsLeft_lt hs.refresher hs.wait_pos hs'.refresher
      obtain ⟨n, hrest, hidle⟩ := ih hs' (by dsimp only; omega)
      rw [Rollout.steps, hstep]
      exact ⟨n, .head (.acts hacts) hrest, hidle⟩

theorem Sound.settle (hs : Sound p s task) :
    s.LeadsTo (s.rollout.settle s.now).1 s.now := by
  rw [Rollout.settle, hs.refresher]
  exact hs.steps (Refresher.stepsLeft_le_stepBound hs.wait_pos)

theorem sound_of_proceeds (h : Relation.ReflTransGen Proceeds s s') (hs : Sound p s task) :
    ∃ task', Sound p s' task' := by
  induction h with
  | refl => exact ⟨task, hs⟩
  | tail _ hstep ih =>
    obtain ⟨task', hs'⟩ := ih
    exact proceeds_sound hstep hs'

theorem Sound.runFrom {fuel target : Nat} (hs : Sound p s task)
    (hidle : s.rollout.Idle s.now) (hle : s.now ≤ target) (hfuel : target < s.now + fuel) :
    s.LeadsTo (Rollout.runFrom fuel s.rollout target).1 target := by
  induction fuel generalizing s task with
  | zero => omega
  | succ fuel ih =>
    rcases hidle.due with ⟨t, hdue, hlt, hwaits⟩ | ⟨hdue, hwaits⟩
    · by_cases htarget : target < t
      · rw [Rollout.runFrom, hdue]
        simp only [if_pos htarget]
        exact ⟨s.completed, .single (.waits hle fun u _ hu => hwaits u (by omega)),
          hwaits target htarget⟩
      · have hwaited : Proceeds s { s with now := t } :=
          .waits (Nat.le_of_lt hlt) fun u _ hu => hwaits u hu
        obtain ⟨task', hs'⟩ := proceeds_sound hwaited hs
        obtain ⟨n, hsettled, hidle'⟩ := hs'.settle
        obtain ⟨task'', hs''⟩ := sound_of_proceeds hsettled hs'
        obtain ⟨m, hrest, hlast⟩ := ih hs'' hidle' (by dsimp only; omega) (by dsimp only; omega)
        rw [Rollout.runFrom, hdue]
        simp only [if_neg htarget]
        exact ⟨m, .head hwaited (hsettled.trans hrest), hlast⟩
    · rw [Rollout.runFrom, hdue]
      exact ⟨s.completed, .single (.waits hle fun u _ _ => hwaits u), hwaits target⟩

/-- What the program runs up to an instant. -/
theorem Sound.runUntil {target : Nat} (hs : Sound p s task) (hle : s.now ≤ target) :
    s.LeadsTo (s.rollout.runUntil s.now target).1 target := by
  obtain ⟨n, hsettled, hidle⟩ := hs.settle
  obtain ⟨task', hs'⟩ := sound_of_proceeds hsettled hs
  have hfuel : target < s.now + (target + 1 - s.now) := by omega
  obtain ⟨m, hrest, hlast⟩ := hs'.runFrom hidle hle hfuel
  exact ⟨m, hsettled.trans hrest, hlast⟩

/-! ## The policy in force -/

theorem Sound.policy_eq (hs : Sound p s task) :
    s.rollout.snapshot.policy = (p.brought s.completed).getLastD p.initial := by
  rw [hs.snapshot, PolicySnapshot.policy_after]
  rfl

theorem Sound.version_eq (hs : Sound p s task) :
    s.rollout.snapshot.version =
      1 + UInt64.ofNat (changesAlong p.initial (p.brought s.completed)) := by
  rw [hs.snapshot, PolicySnapshot.version_first, PolicySnapshot.changes_eq_changesAlong]
  rfl

theorem Sound.toNat_version (hs : Sound p s task) (hfew : s.completed + 1 < UInt64.size) :
    s.rollout.snapshot.version.toNat = 1 + changesAlong p.initial (p.brought s.completed) := by
  have hbound := (PolicySnapshot.first p.initial).changes_le_length (p.operations s.completed)
  rw [p.length_operations] at hbound
  rw [hs.snapshot, PolicySnapshot.toNat_version_first (by omega),
    PolicySnapshot.changes_eq_changesAlong]
  rfl

/-- The task is behind by one poll at most. -/
theorem Sound.punctual (hs : Sound p s task) (hzero : p.interval.isZero = false)
    (hcanceled : s.rollout.isCanceled = false) :
    s.rollout.isOver = false ∧ s.now ≤ p.latest (s.completed + 1) := by
  rw [Rollout.isCanceled_eq hs.refresher] at hcanceled
  rw [Rollout.isOver_eq hs.refresher, p.latest_succ]
  cases hs.phase with
  | ended _ _ cause =>
    rw [hcanceled, hzero] at cause
    exact absurd cause (by decide)
  | waiting running _ _ _ clock => exact ⟨running, Nat.le_trans clock (Nat.le_add_right _ _)⟩
  | fetching running fetch =>
    exact ⟨running, Nat.le_trans fetch.clock (Nat.add_le_add_right fetch.begun _)⟩

theorem reachable_of_runs (h : Reachable p s) (hruns : Relation.ReflTransGen Proceeds s s') :
    Reachable p s' := by
  induction hruns with
  | refl => exact h
  | tail _ hstep ih => exact ih.step (.proceeds hstep)

theorem isCanceled_of_proceeds (h : Proceeds s s') :
    s'.rollout.isCanceled = s.rollout.isCanceled := by
  cases h with
  | waits => rfl
  | acts h => exact h.isCanceled_eq

theorem isCanceled_of_runs (h : Relation.ReflTransGen Proceeds s s') :
    s'.rollout.isCanceled = s.rollout.isCanceled := by
  induction h with
  | refl => rfl
  | tail _ hstep ih => exact (isCanceled_of_proceeds hstep).trans ih

/-- A task that is over does nothing more. -/
theorem step_over (h : Step s s') (hover : s.rollout.isOver = true) :
    s'.rollout.isOver = true := by
  cases h with
  | cancels => rw [Rollout.isOver_cancel, hover]
  | proceeds h =>
    cases h with
    | waits => exact hover
    | acts h =>
      rw [h.isOver_eq_false] at hover
      cases hover

/-- Whatever leaves the task over has installed nothing. -/
theorem step_ends (h : Step s s') (hover : s'.rollout.isOver = true) :
    s'.rollout.snapshot = s.rollout.snapshot ∧ s'.completed = s.completed := by
  cases h with
  | cancels => exact ⟨rfl, rfl⟩
  | proceeds h =>
    cases h with
    | waits => exact ⟨rfl, rfl⟩
    | @acts r _ h =>
      have hnot : s.rollout.completes r = false := by simpa [Rollout.completes] using fun _ _ => hover
      exact ⟨h.snapshot_of_isOver hover, completed_of_not_completes hnot⟩

theorem steps_over (h : Relation.ReflTransGen Step s s') (hover : s.rollout.isOver = true) :
    s'.rollout.isOver = true ∧ s'.rollout.snapshot = s.rollout.snapshot ∧
      s'.completed = s.completed := by
  induction h with
  | refl => exact ⟨hover, rfl, rfl⟩
  | tail _ hstep ih =>
    obtain ⟨hstill, hsnapshot, hcompleted⟩ := ih
    have hlast := step_over hstep hstill
    obtain ⟨hsame, hcount⟩ := step_ends hstep hlast
    exact ⟨hlast, hsame.trans hsnapshot, hcount.trans hcompleted⟩

/-- Once the task is canceled, no time passes before it ends. -/
theorem step_canceled (h : Step s s') (hcanceled : s.rollout.isCanceled = true) :
    s'.rollout.isCanceled = true ∧ (s.rollout.isOver = true ∨ s'.now = s.now) := by
  cases h with
  | cancels => exact ⟨Rollout.isCanceled_cancel hcanceled, .inr rfl⟩
  | proceeds h =>
    refine ⟨(isCanceled_of_proceeds h).trans hcanceled, ?_⟩
    cases h with
    | acts => exact .inr rfl
    | waits hle idle =>
      rcases Nat.eq_or_lt_of_le hle with hnow | hlater
      · exact .inr hnow.symm
      · exact .inl ((idle _ (Nat.le_refl _) hlater).isOver hcanceled)

theorem steps_canceled (h : Relation.ReflTransGen Step s s')
    (hcanceled : s.rollout.isCanceled = true) :
    s'.rollout.isCanceled = true ∧ (s'.rollout.isOver = true ∨ s'.now = s.now) := by
  induction h with
  | refl => exact ⟨hcanceled, .inr rfl⟩
  | tail _ hstep ih =>
    obtain ⟨hstill, hbefore⟩ := ih
    obtain ⟨hlast, hstep'⟩ := step_canceled hstep hstill
    refine ⟨hlast, ?_⟩
    rcases hbefore with hover | hnow
    · exact .inl (step_over hstep hover)
    · exact hstep'.imp (step_over hstep) fun hsame => hsame.trans hnow

/-- Cancellation does not undo what is ready: a task that is canceled before its first poll may still
install a policy at hand. -/
theorem canceled_may_install {policy : RolloutPolicy} (hfixed : p.fixed = some policy)
    (hzero : p.interval.isZero = false) :
    ∃ s', Relation.ReflTransGen Step ⟨p.rollout.cancel, p.start, 0⟩ s' ∧
      s'.rollout.isCanceled = true ∧
      s'.rollout.snapshot = (PolicySnapshot.first p.initial).refresh (.ok policy) := by
  obtain ⟨initial, source, fixed, interval, start⟩ := p
  obtain rfl : fixed = some policy := hfixed
  let task : Refresher := { Refresher.create interval (some policy) start with canceled := true }
  let r : Rollout := ⟨.first initial, source, some task⟩
  let fetching : Refresher := { task with
    tickAt := task.nextTick start
    pending := some ⟨some (start, .ok policy), start + interval.ticks⟩ }
  let begun : Rollout := (r.beginFetch task start).1
  have hbegins : r.Acts start begun (r.beginFetch task start).2 :=
    .begins rfl hzero rfl (Nat.le_refl _)
  have hfetching : begun.refresher = some fetching := rfl
  have hbrings : begun.Acts start _ _ := .brings hfetching hzero rfl (Nat.le_refl _)
  exact ⟨_, .tail (.single (.proceeds (.acts hbegins))) (.proceeds (.acts hbrings)), rfl, rfl⟩

/-- A canceled task is over where the program waits for it. -/
theorem Sound.ends (hs : Sound p s task) (hcanceled : s.rollout.isCanceled = true) {target : Nat}
    (hle : s.now ≤ target) : (s.rollout.runUntil s.now target).1.isOver = true := by
  obtain ⟨n, hruns, hidle⟩ := hs.runUntil hle
  exact hidle.isOver ((isCanceled_of_runs hruns).trans hcanceled)

/-- Without an interval nothing is polled. -/
theorem completed_of_isZero (h : Reachable p s) (hzero : p.interval.isZero = true) :
    s.rollout.isOver = true ∧ s.completed = 0 := by
  induction h with
  | spawned => exact ⟨hzero, rfl⟩
  | step _ hstep ih =>
    have hover := step_over hstep ih.1
    exact ⟨hover, (step_ends hstep hover).2.trans ih.2⟩

/-- A poll that brings nothing leaves the policy in force as it is. -/
theorem snapshot_of_no_outcome (h : Reachable p s) (hnone : p.outcome s.completed = none)
    (hstep : Step s s') : s'.rollout.snapshot = s.rollout.snapshot := by
  obtain ⟨task, hs⟩ := sound_of_reachable h
  obtain ⟨task', hs'⟩ := step_sound hstep hs
  have hcompleted : s'.completed = s.completed ∨ s'.completed = s.completed + 1 := by
    cases hstep with
    | cancels => exact .inl rfl
    | proceeds h =>
      cases h with
      | waits => exact .inl rfl
      | acts h => cases s.rollout.completes _ <;> simp
  rw [hs'.snapshot, hs.snapshot]
  rcases hcompleted with hsame | hnext
  · rw [hsame]
  · rw [hnext, p.operations_succ, PolicySnapshot.after_append, hnone]
    rfl

/-- However many polls there are, the task goes on to complete more, if it is not canceled. -/
theorem Sound.goes_on (hs : Sound p s task) (hzero : p.interval.isZero = false)
    (hcanceled : s.rollout.isCanceled = false) {target : Nat} (hle : s.now ≤ target) :
    ∃ n, Relation.ReflTransGen Proceeds s
      ⟨(s.rollout.runUntil s.now target).1, target, n⟩ ∧ target ≤ p.latest (n + 1) := by
  obtain ⟨n, hruns, _⟩ := hs.runUntil hle
  obtain ⟨task', hs'⟩ := sound_of_proceeds hruns hs
  exact ⟨n, hruns, (hs'.punctual hzero ((isCanceled_of_runs hruns).trans hcanceled)).2⟩

/-- What the refresher makes of its source, whatever that answers to one poll after another: a valid
policy, an invalid one, a fault, or nothing in time. The policy in force is the last valid one that
a completed poll has brought in time, and its version counts the changes among those. As long as the
task is not canceled it is behind by one poll at most, and what the program runs up to any instant
completes more. A fetch that is given up installs nothing. A canceled task ends before any time
passes; polls that are completed until then count like any other, but the step that ends it installs
nothing, whatever is on its way, and nothing is installed once it is over. -/
theorem polling_exact (h : Reachable p s) :
    let snapshot := s.rollout.snapshot
    let brought := p.brought s.completed
    (snapshot.policy = brought.getLastD p.initial ∧
      snapshot.version = 1 + UInt64.ofNat (changesAlong p.initial brought) ∧
      (s.completed + 1 < UInt64.size →
        snapshot.version.toNat = 1 + changesAlong p.initial brought)) ∧
    (p.fixed = none → s.completed ≤ p.source.answers.length →
      brought = (p.source.answers.take s.completed).filterMap fun reply =>
        (PolicyOperation.refresh (reply.within? p.interval.ticks)).policy?) ∧
    (p.interval.isZero = true → s.completed = 0) ∧
    (p.interval.isZero = false → s.rollout.isCanceled = false →
      s.rollout.isOver = false ∧ s.now ≤ p.latest (s.completed + 1) ∧
      (∀ target, s.now ≤ target → ∃ n, Relation.ReflTransGen Proceeds s
        ⟨(s.rollout.runUntil s.now target).1, target, n⟩ ∧ target ≤ p.latest (n + 1)) ∧
      ∀ n, ∃ s', Relation.ReflTransGen Proceeds s s' ∧ n ≤ s'.completed) ∧
    (p.outcome s.completed = none → ∀ s', Step s s' → s'.rollout.snapshot = snapshot) ∧
    (s.rollout.isCanceled = true →
      (∀ target, s.now ≤ target → (s.rollout.runUntil s.now target).1.isOver = true) ∧
      ∀ s', Relation.ReflTransGen Step s s' → s'.rollout.isOver = true ∨ s'.now = s.now) ∧
    (∀ s', Step s s' → s'.rollout.isOver = true →
      s'.rollout.snapshot = snapshot ∧ s'.completed = s.completed) ∧
    (s.rollout.isOver = true → ∀ s', Relation.ReflTransGen Step s s' →
      s'.rollout.isOver = true ∧ s'.rollout.snapshot = snapshot ∧ s'.completed = s.completed) := by
  intro snapshot brought
  obtain ⟨task, hs⟩ := sound_of_reachable h
  refine ⟨⟨hs.policy_eq, hs.version_eq, hs.toNat_version⟩, ?_, ?_, ?_, ?_, ?_, ?_, ?_⟩
  · intro hfixed hmore
    show (p.operations s.completed).filterMap _ = _
    rw [Polling.operations_eq hfixed hmore, List.filterMap_map]
    rfl
  · exact fun hzero => (completed_of_isZero h hzero).2
  · intro hzero hcanceled
    obtain ⟨hover, hclock⟩ := hs.punctual hzero hcanceled
    refine ⟨hover, hclock, fun target => hs.goes_on hzero hcanceled, fun n => ?_⟩
    have hticks := Duration.ticks_pos hzero
    obtain ⟨m, hruns, htarget⟩ := hs.goes_on hzero hcanceled
      (Nat.le_max_left s.now (p.latest n + 1))
    refine ⟨_, hruns, ?_⟩
    have hlate : p.latest n < p.latest (m + 1) :=
      Nat.lt_of_lt_of_le (Nat.le_max_right s.now _) htarget
    have hfewer := Nat.lt_of_mul_lt_mul_left (Nat.lt_of_add_lt_add_left hlate)
    exact Nat.le_of_lt_succ hfewer
  · exact fun hnone s' => snapshot_of_no_outcome h hnone
  · exact fun hcanceled => ⟨fun target => hs.ends hcanceled,
      fun s' hsteps => (steps_canceled hsteps hcanceled).2⟩
  · exact fun s' => step_ends
  · exact fun hover s' hsteps => steps_over hsteps hover

/-- The first fetch hangs and is given up, and the second brings a policy. It stays in force when the
task is canceled and ends. -/
theorem polling_exact_of_hung_fetch :
    let dual : RolloutPolicy := .fixed .dualValidate
    let p : Polling :=
      ⟨.fixed .attributeOnly, ⟨[.silent, .atOnce (.ok dual)]⟩, none, .ofMillis 2, 0⟩
    let r := (p.rollout.runUntil p.start 5).1
    p.outcome 0 = none ∧ r.snapshot = ⟨dual, 2⟩ ∧ ∃ n, 2 ≤ n ∧ Reachable p ⟨r, 5, n⟩ ∧
      dual = (p.brought n).getLastD (.fixed .attributeOnly) ∧
      ∃ ended m, Relation.ReflTransGen Step ⟨r.cancel, 5, n⟩ ⟨ended, 5, m⟩ ∧ ended.isOver = true ∧
        ∀ s', Relation.ReflTransGen Step ⟨ended, 5, m⟩ s' → s'.rollout.snapshot = ⟨dual, 2⟩ := by
  intro dual p r
  have hzero : p.interval.isZero = false := by decide +kernel
  have hticks : p.interval.ticks = 2 := by decide +kernel
  have hsnapshot : r.snapshot = ⟨dual, 2⟩ := by decide +kernel
  have hcanceled : r.cancel.isCanceled = true := by decide +kernel
  have hending : (r.cancel.runUntil 5 5).1.snapshot = ⟨dual, 2⟩ := by decide +kernel
  obtain ⟨_, _, _, hgoesOn, _⟩ := polling_exact (p := p) .spawned
  obtain ⟨n, hruns, hlatest⟩ := (hgoesOn hzero rfl).2.2.1 5 (Nat.zero_le 5)
  have h : Reachable p ⟨r, 5, n⟩ := reachable_of_runs .spawned hruns
  have hnone : p.outcome 0 = none := by decide +kernel
  clear_value r
  refine ⟨hnone, hsnapshot, n, ?_, h, ?_, ?_⟩
  · rw [Polling.latest, hticks] at hlatest
    have hstart : p.start = 0 := rfl
    omega
  · have hpolicy := (polling_exact h).1.1
    rw [← hpolicy, hsnapshot]
  · have hcancels : Reachable p ⟨r.cancel, 5, n⟩ := h.step (.cancels ⟨r, 5, n⟩)
    obtain ⟨task, hs⟩ := sound_of_reachable hcancels
    obtain ⟨m, hends, _⟩ := hs.runUntil (Nat.le_refl 5)
    have hover : (r.cancel.runUntil 5 5).1.isOver = true :=
      ((polling_exact hcancels).2.2.2.2.2.1 hcanceled).1 5 (Nat.le_refl 5)
    have hlast := reachable_of_runs hcancels hends
    obtain ⟨_, _, _, _, _, _, _, hstays⟩ := polling_exact hlast
    refine ⟨_, m, Relation.ReflTransGen.mono (fun _ _ => .proceeds) _ _ hends, hover,
      fun s' hsteps => ?_⟩
    rw [(hstays hover s' hsteps).2.1]
    exact hending

end Refreshing

end ScopedAccess
