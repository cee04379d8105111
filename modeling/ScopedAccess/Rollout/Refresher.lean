import ScopedAccess.Duration.Text
import ScopedAccess.Effect
import ScopedAccess.Rollout.Source
import ScopedAccess.Rollout.Store

/-!
# ScopedAccess.Rollout.Refresher

The policy in force together with the background task that keeps it fresh.

* The refresher fetches a policy at once and then once every interval. A fetch that takes longer
  than the interval is given up. Whatever a fetch brings, the refresher goes on until it is
  canceled.
* `Rollout.Acts` says what the task may do at an instant. A canceled task does not wait any more,
  but a tick or an answer that is ready may still come before its end: the order is open.
* `Rollout.step?` is the step of the runs of this library, in which the end comes first, and
  `acts_of_step?` says that it is one of the steps there may be. `Rollout.runUntil` is all steps up
  to an instant.

Instants are milliseconds on one clock; ticks are kept in nanoseconds, because an interval need not
be whole milliseconds.
-/

namespace ScopedAccess

/-- A fetch that is on its way. -/
structure PendingFetch where
  answer : Option (Nat × FetchedPolicy)
  giveUp : Nat

/-- The background task that fetches policies. -/
structure Refresher where
  interval : Duration
  /-- When the next tick is due, in nanoseconds. -/
  tickAt : Nat
  pending : Option PendingFetch
  /-- A policy that stands in for the source. -/
  fixed : Option RolloutPolicy
  canceled : Bool
  finished : Bool

/-- The policy in force, where policies come from, and the task that fetches them. -/
structure Rollout where
  snapshot : PolicySnapshot
  source : PolicySource
  refresher : Option Refresher

def nanosAt (instant : Nat) : Nat := instant * 1000000

namespace Refresher

/-- A refresher whose first tick is due at an instant. One without an interval is over at once. -/
def create (interval : Duration) (fixed : Option RolloutPolicy) (now : Nat) : Refresher :=
  ⟨interval, nanosAt now, none, fixed, false, interval.isZero⟩

/-- How far behind a tick may be before the ticks after it are put off. -/
def tolerance : Nat := 5000000

/-- When the tick after one that is served now is due. -/
def nextTick (r : Refresher) (now : Nat) : Nat :=
  if nanosAt now > r.tickAt + tolerance then nanosAt now + r.interval.wait
  else r.tickAt + r.interval.wait

/-- The first instant at which the refresher has something to do. -/
def due (r : Refresher) : Option Nat :=
  if r.finished then none
  else
    match r.pending with
    | none => some ((r.tickAt + 999999) / 1000000)
    | some ⟨some (t, _), giveUp⟩ => some (min t giveUp)
    | some ⟨none, giveUp⟩ => some giveUp

/-- Nothing is ready for the task: it is wanted, no tick is due, and its fetch is still awaited. -/
structure Waits (r : Refresher) (now : Nat) : Prop where
  wanted : r.canceled = false
  tick : r.pending = none → nanosAt now < r.tickAt
  giveUp : ∀ fetch, r.pending = some fetch → now < fetch.giveUp
  answer : ∀ fetch, r.pending = some fetch →
    ∀ t fetched, fetch.answer = some (t, fetched) → now < t

theorem waits_iff {r : Refresher} {now : Nat} :
    r.Waits now ↔
      r.canceled = false ∧ (r.pending = none → nanosAt now < r.tickAt) ∧
      ∀ fetch, r.pending = some fetch →
        now < fetch.giveUp ∧ ∀ t fetched, fetch.answer = some (t, fetched) → now < t :=
  ⟨fun h => ⟨h.wanted, h.tick, fun fetch hfetch => ⟨h.giveUp fetch hfetch, h.answer fetch hfetch⟩⟩,
    fun h => ⟨h.1, h.2.1, fun fetch hfetch => (h.2.2 fetch hfetch).1,
      fun fetch hfetch => (h.2.2 fetch hfetch).2⟩⟩

/-- A bound on the steps at one instant: two for each tick that is due. -/
def stepBound (r : Refresher) (now : Nat) : Nat :=
  2 * ((nanosAt now - r.tickAt) / max r.interval.wait 1 + 2) + 2

end Refresher

/-- The instant and value of an answer to a question asked now. -/
def Reply.arrival (now : Nat) : Reply α → Option (Nat × α)
  | .after millis value => some (now + millis, value)
  | .silent => none

namespace Rollout

def create (policy : RolloutPolicy) (source : PolicySource) : Rollout :=
  ⟨.first policy, source, none⟩

/-- Installs a policy. -/
def replace (r : Rollout) (policy : RolloutPolicy) : Rollout :=
  { r with snapshot := r.snapshot.replace policy }

def spawn (r : Rollout) (interval : Duration) (fixed : Option RolloutPolicy) (now : Nat) : Rollout :=
  { r with refresher := some (.create interval fixed now) }

def cancel (r : Rollout) : Rollout :=
  { r with refresher := r.refresher.map fun task => { task with canceled := true } }

/-- Asks for a policy: the answer, the rollout after it, and what can be seen of it. A fixed policy
is at hand and nobody is asked. -/
def fetch (r : Rollout) : Option RolloutPolicy → Reply FetchedPolicy × Rollout × List Effect
  | some policy => (.atOnce (.ok policy), r, [])
  | none => (r.source.next.1, { r with source := r.source.next.2 }, [.fetchPolicy])

def accept (r : Rollout) (fetched : FetchedPolicy) : Rollout × List Effect :=
  ({ r with snapshot := r.snapshot.refresh fetched },
    (r.snapshot.refreshLog fetched).map .log)

/-- What is logged about a fetch of the refresher that brought no policy. -/
def failureLog (r : Rollout) (fetched : FetchedPolicy) : List Effect :=
  match r.snapshot.refreshResult fetched with
  | .ok _ => []
  | .error fault =>
    [.log ⟨.warn, "rollout policy refresh failed, keeping current snapshot",
      [("error", .text fault.message)]⟩]

/-- What is logged about a fetch that was given up. -/
def timeoutLog (interval : Duration) : Effect :=
  .log ⟨.warn, "rollout policy refresh timed out, keeping current snapshot",
    [("timeout", .text interval.text)]⟩

def beginFetch (r : Rollout) (task : Refresher) (now : Nat) : Rollout × List Effect :=
  let (reply, r, effects) := r.fetch task.fixed
  ({ r with refresher := some { task with
      tickAt := task.nextTick now
      pending := some ⟨reply.arrival now, now + task.interval.ticks⟩ } }, effects)

/-- The task ends a fetch that brought something. -/
def endFetch (r : Rollout) (task : Refresher) (fetched : FetchedPolicy) : Rollout × List Effect :=
  let (r', effects) := r.accept fetched
  ({ r' with refresher := some { task with pending := none } }, effects ++ r.failureLog fetched)

/-- The task gives its fetch up. -/
def giveUp (r : Rollout) (task : Refresher) : Rollout :=
  { r with refresher := some { task with pending := none } }

/-- The task ends, and gives up a fetch that is on its way. -/
def finish (r : Rollout) (task : Refresher) : Rollout :=
  { r with refresher := some { task with finished := true, pending := none } }

/-- What the task may do at an instant: the rollout after it, and what can be seen of it. -/
inductive Acts (r : Rollout) (now : Nat) : Rollout → List Effect → Prop where
  | ends {task : Refresher} (own : r.refresher = some task) (running : task.finished = false)
      (canceled : task.canceled = true) : Acts r now (r.finish task) []
  | begins {task : Refresher} (own : r.refresher = some task) (running : task.finished = false)
      (free : task.pending = none) (due : task.tickAt ≤ nanosAt now) :
      Acts r now (r.beginFetch task now).1 (r.beginFetch task now).2
  /-- An answer that arrives with the end of the interval is still taken. -/
  | brings {task : Refresher} {giveUp t : Nat} {fetched : FetchedPolicy}
      (own : r.refresher = some task) (running : task.finished = false)
      (fetching : task.pending = some ⟨some (t, fetched), giveUp⟩) (arrived : t ≤ now) :
      Acts r now (r.endFetch task fetched).1 (r.endFetch task fetched).2
  | givesUp {task : Refresher} {fetch : PendingFetch} (own : r.refresher = some task)
      (running : task.finished = false) (fetching : task.pending = some fetch)
      (late : fetch.giveUp ≤ now)
      (missing : ∀ t fetched, fetch.answer = some (t, fetched) → now < t) :
      Acts r now (r.giveUp task) [timeoutLog task.interval]

/-- There is nothing that the task may do. -/
def Idle (r : Rollout) (now : Nat) : Prop := ∀ r' effects, ¬ r.Acts now r' effects

/-- The step that the task takes at an instant, where it has one. A canceled task ends. -/
def step? (r : Rollout) (now : Nat) : Option (Rollout × List Effect) :=
  match r.refresher with
  | none => none
  | some task =>
    if task.finished then none
    else if task.canceled then some (r.finish task, [])
    else
      match task.pending with
      | none => if task.tickAt ≤ nanosAt now then some (r.beginFetch task now) else none
      | some p =>
        let late := if p.giveUp ≤ now then some (r.giveUp task, [timeoutLog task.interval]) else none
        match p.answer with
        | none => late
        | some (t, fetched) => if t ≤ now then some (r.endFetch task fetched) else late

section Steps

variable {r r' : Rollout} {task : Refresher} {now : Nat} {effects : List Effect}

/-- A step that is taken is one of those there may be. -/
theorem acts_of_step? (h : r.step? now = some (r', effects)) : r.Acts now r' effects := by
  unfold step? at h
  cases own : r.refresher with
  | none =>
    rw [own] at h
    cases h
  | some task =>
    simp only [own] at h
    split at h
    · cases h
    rename_i hfinished
    have running : task.finished = false := by simpa using hfinished
    split at h
    · rename_i canceled
      cases h
      exact .ends own running canceled
    cases fetching : task.pending with
    | none =>
      simp only [fetching] at h
      split at h
      · rename_i due
        cases h
        exact .begins own running fetching due
      · cases h
    | some fetch =>
      obtain ⟨answer, giveUp⟩ := fetch
      simp only [fetching] at h
      have hlate (missing : ∀ t fetched, answer = some (t, fetched) → now < t)
          (h : (if giveUp ≤ now then some (r.giveUp task, [timeoutLog task.interval]) else none) =
            some (r', effects)) : r.Acts now r' effects := by
        split at h
        · rename_i late
          cases h
          exact .givesUp own running fetching late missing
        · cases h
      cases answer with
      | none => exact hlate nofun h
      | some x =>
        obtain ⟨t, fetched⟩ := x
        simp only at h
        split at h
        · rename_i arrived
          cases h
          exact .brings own running fetching arrived
        · rename_i early
          refine hlate (fun t' fetched' hx => ?_) h
          cases hx
          exact Nat.lt_of_not_le early

theorem step?_eq_none_iff (own : r.refresher = some task) (running : task.finished = false) :
    r.step? now = none ↔ task.Waits now := by
  rw [Refresher.waits_iff]
  unfold step?
  cases canceled : task.canceled with
  | true => simp [own, running, canceled]
  | false =>
    cases fetching : task.pending with
    | none => simp [own, running, canceled, fetching]
    | some fetch =>
      obtain ⟨answer, giveUp⟩ := fetch
      cases answer with
      | none => simp [own, running, canceled, fetching]
      | some x =>
        obtain ⟨t, fetched⟩ := x
        by_cases ht : t ≤ now
        · simp [own, running, canceled, fetching, ht]
        · simp [own, running, canceled, fetching, ht, Nat.lt_of_not_le ht]

/-- Where no step is taken there is none. -/
theorem idle_iff : r.Idle now ↔ r.step? now = none := by
  constructor
  · intro hidle
    cases hstep : r.step? now with
    | none => rfl
    | some x => exact absurd (acts_of_step? hstep) (hidle x.1 x.2)
  · intro hnone r' effects hacts
    cases hacts with
    | ends own running canceled =>
      have hwanted := ((step?_eq_none_iff own running).1 hnone).wanted
      rw [canceled] at hwanted
      cases hwanted
    | begins own running free due =>
      exact Nat.not_le_of_lt (((step?_eq_none_iff own running).1 hnone).tick free) due
    | brings own running fetching arrived =>
      have hawaited := ((step?_eq_none_iff own running).1 hnone).answer _ fetching
      exact Nat.not_le_of_lt (hawaited _ _ rfl) arrived
    | givesUp own running fetching late =>
      exact Nat.not_le_of_lt (((step?_eq_none_iff own running).1 hnone).giveUp _ fetching) late

theorem waits_of_idle (own : r.refresher = some task) (running : task.finished = false)
    (h : r.Idle now) : task.Waits now :=
  (step?_eq_none_iff own running).1 (idle_iff.1 h)

theorem idle_of_finished (own : r.refresher = some task) (h : task.finished = true) :
    r.Idle now := by
  rw [idle_iff]
  simp [step?, own, h]

end Steps

/-- Some steps of the task at an instant. -/
def steps (now : Nat) : Nat → Rollout → Rollout × List Effect
  | 0, r => (r, [])
  | fuel + 1, r =>
    match r.step? now with
    | none => (r, [])
    | some (r, effects) =>
      let (r, rest) := steps now fuel r
      (r, effects ++ rest)

/-- All steps of the task at an instant. -/
def settle (r : Rollout) (now : Nat) : Rollout × List Effect :=
  match r.refresher with
  | none => (r, [])
  | some task => steps now (task.stepBound now) r

/-- The first instant at which the task has something to do. -/
def due (r : Rollout) : Option Nat :=
  match r.refresher with
  | none => none
  | some task => task.due

/-- All steps of the task up to an instant, for as many instants as there is fuel. -/
def runFrom : Nat → Rollout → Nat → Rollout × List Effect
  | 0, r, _ => (r, [])
  | fuel + 1, r, target =>
    match r.due with
    | none => (r, [])
    | some t =>
      if target < t then (r, [])
      else
        let (r, effects) := r.settle t
        let (r, rest) := runFrom fuel r target
        (r, effects ++ rest)

/-- All steps of the task from now up to an instant. -/
def runUntil (r : Rollout) (now target : Nat) : Rollout × List Effect :=
  let (r, effects) := r.settle now
  let (r, rest) := runFrom (target + 1 - now) r target
  (r, effects ++ rest)

end Rollout

end ScopedAccess
