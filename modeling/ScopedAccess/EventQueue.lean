import ScopedAccess.Event

/-!
# ScopedAccess.EventQueue

The bounded queue between calls and the sink of events. Offering never waits: where the queue is
full or closed, the event is dropped and counted. A drain takes the events out in order. It ends
once it is canceled or the last emitter is gone, and delivers before that whatever is queued.
-/

namespace ScopedAccess

/-- Progress of the drain of a queue. -/
inductive Drain where
  /-- Not started. -/
  | idle
  | running
  /-- Canceled: the queue is closed, and what it holds is still delivered. -/
  | flushing
  /-- Over, or given up before it started. -/
  | ended
deriving DecidableEq, Inhabited

/-- A queue of events. -/
structure EventQueue where
  capacity : Nat
  queued : List Event
  dropped : Nat
  emitters : Nat
  canceled : Bool
  drain : Drain
deriving DecidableEq, Inhabited

namespace EventQueue

/-- An empty queue with one emitter. It has room for one event at least. -/
def create (capacity : Nat) (drain : Drain) : EventQueue :=
  ⟨max capacity 1, [], 0, 1, false, drain⟩

/-- Whether the queue takes no more events. -/
def isClosed (q : EventQueue) : Bool :=
  match q.drain with
  | .flushing => true
  | .ended => true
  | _ => false

def offer (q : EventQueue) (e : Event) : EventQueue :=
  if q.isClosed || q.capacity ≤ q.queued.length then { q with dropped := q.dropped + 1 }
  else { q with queued := q.queued ++ [e] }

def cloneEmitter (q : EventQueue) : EventQueue := { q with emitters := q.emitters + 1 }

def dropEmitter (q : EventQueue) : EventQueue := { q with emitters := q.emitters - 1 }

def cancel (q : EventQueue) : EventQueue := { q with canceled := true }

def start (q : EventQueue) : EventQueue :=
  if q.drain = .idle then { q with drain := .running } else q

/-- Gives up a drain that was not started, and with it what is queued. -/
def discard (q : EventQueue) : EventQueue :=
  if q.drain = .idle then { q with drain := .ended, queued := [] } else q

/-- One step of the drain: the queue after it and the event it delivers, if it delivers one. There
is no step where the drain waits or is not running. -/
def step? (q : EventQueue) : Option (EventQueue × Option Event) :=
  match q.drain, q.queued with
  | .running, e :: rest =>
    if q.canceled then some ({ q with drain := .flushing }, none)
    else some ({ q with queued := rest }, some e)
  | .running, [] =>
    if q.canceled then some ({ q with drain := .flushing }, none)
    else if q.emitters = 0 then some ({ q with drain := .ended }, none)
    else none
  | .flushing, e :: rest => some ({ q with queued := rest }, some e)
  | .flushing, [] => some ({ q with drain := .ended }, none)
  | _, _ => none

/-- Runs the drain for a number of steps. -/
def steps : Nat → EventQueue → EventQueue × List Event
  | 0, q => (q, [])
  | fuel + 1, q =>
    match q.step? with
    | none => (q, [])
    | some (q, delivered) =>
      let (q, rest) := steps fuel q
      (q, delivered.toList ++ rest)

/-- Runs the drain until it waits or ends: a step per event, one to close and one to end. -/
def settle (q : EventQueue) : EventQueue × List Event := steps (q.queued.length + 2) q

end EventQueue

end ScopedAccess
