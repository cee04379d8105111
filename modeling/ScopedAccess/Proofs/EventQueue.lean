import Mathlib.Logic.Relation
import ScopedAccess.EventQueue

/-!
# ScopedAccess.Proofs.EventQueue

What becomes of the events that are offered to a queue, whatever its emitters and its drain do, and
in whatever order.

* `EventQueue.Drains`: the steps of a drain. One that is canceled may go on for a while before it
  closes the queue; `drains_of_step?` says that `EventQueue.step?` is one way to go.
* `Ledger.Step`: offers, clones and drops of emitters, a cancellation, and steps of the drain.
* `Ledger.Balanced` is what every step preserves: accepted events are delivered or queued, in order.
* `Reachable.settle`: to let the drain run until it waits is such a history.
* `events_conserved`: no event is lost that was not counted as dropped.
-/

namespace ScopedAccess

namespace EventQueue

/-- A step of the drain, with the event that it delivers. -/
inductive Drains : EventQueue → EventQueue → Option Event → Prop where
  | receives {q : EventQueue} {e : Event} {rest : List Event} (running : q.drain = .running)
      (next : q.queued = e :: rest) : Drains q { q with queued := rest } (some e)
  /-- The cancellation is noticed, and the queue takes no more events. -/
  | closes {q : EventQueue} (running : q.drain = .running) (canceled : q.canceled = true) :
      Drains q { q with drain := .flushing } none
  /-- Nothing is queued, and nobody is left to offer anything. -/
  | runsDry {q : EventQueue} (running : q.drain = .running) (empty : q.queued = [])
      (gone : q.emitters = 0) : Drains q { q with drain := .ended } none
  | flushes {q : EventQueue} {e : Event} {rest : List Event} (flushing : q.drain = .flushing)
      (next : q.queued = e :: rest) : Drains q { q with queued := rest } (some e)
  | finishes {q : EventQueue} (flushing : q.drain = .flushing) (empty : q.queued = []) :
      Drains q { q with drain := .ended } none

/-- Whether an event that is offered now is accepted. -/
def accepts (q : EventQueue) : Bool := !q.isClosed && q.queued.length < q.capacity

section Steps

variable {q q' : EventQueue} {delivered : Option Event}

theorem drains_of_step? (h : q.step? = some (q', delivered)) : q.Drains q' delivered := by
  unfold step? at h
  split at h
  · rename_i e rest hdrain hqueued
    split at h
    · rename_i hcanceled
      cases h
      exact .closes hdrain hcanceled
    · cases h
      exact .receives hdrain hqueued
  · rename_i hdrain hqueued
    split at h
    · rename_i hcanceled
      cases h
      exact .closes hdrain hcanceled
    · split at h
      · rename_i hgone
        cases h
        exact .runsDry hdrain hqueued hgone
      · cases h
  · rename_i e rest hdrain hqueued
    cases h
    exact .flushes hdrain hqueued
  · rename_i hdrain hqueued
    cases h
    exact .finishes hdrain hqueued
  · cases h

theorem offer_of_accepts (h : q.accepts = true) (e : Event) :
    q.offer e = { q with queued := q.queued ++ [e] } := by
  rw [accepts, Bool.and_eq_true, Bool.not_eq_true', decide_eq_true_eq] at h
  rw [offer, h.1, Bool.false_or, if_neg]
  rw [decide_eq_true_eq]
  exact Nat.not_le.2 h.2

theorem offer_of_not_accepts (h : ¬ q.accepts = true) (e : Event) :
    q.offer e = { q with dropped := q.dropped + 1 } := by
  rw [accepts, Bool.and_eq_true, Bool.not_eq_true', decide_eq_true_eq] at h
  rw [offer, if_pos]
  rw [Bool.or_eq_true, decide_eq_true_eq]
  by_cases hclosed : q.isClosed = true
  · exact .inl hclosed
  · exact .inr (Nat.not_lt.1 fun hroom => h ⟨Bool.eq_false_iff.2 hclosed, hroom⟩)

theorem not_accepts_of_isClosed (h : q.isClosed = true) : ¬ q.accepts = true := by
  rw [accepts, h]
  exact Bool.false_ne_true

theorem isClosed_of_drains (h : q.Drains q' delivered) (hclosed : q.isClosed = true) :
    q'.isClosed = true := by
  cases h with
  | receives _ _ => exact hclosed
  | closes _ _ => rfl
  | runsDry _ _ _ => rfl
  | flushes _ _ => exact hclosed
  | finishes _ _ => rfl

end Steps

end EventQueue

/-- A queue, and what has become of the events offered to it so far, each list in order. -/
structure Ledger where
  queue : EventQueue
  offered : List Event
  accepted : List Event
  delivered : List Event

namespace Ledger

/-- A queue before anything is offered to it. Its drain has not been started yet. -/
def opened (capacity : Nat) : Ledger := ⟨.create capacity .idle, [], [], []⟩

def offer (l : Ledger) (e : Event) : Ledger where
  queue := l.queue.offer e
  offered := l.offered ++ [e]
  accepted := if l.queue.accepts then l.accepted ++ [e] else l.accepted
  delivered := l.delivered

/-- What may happen next. Emitters act only as long as there are any, and the drain is not given up
before it has been started. -/
inductive Step : Ledger → Ledger → Prop where
  | offers {l : Ledger} (e : Event) (alive : 0 < l.queue.emitters) : Step l (l.offer e)
  | clones {l : Ledger} (alive : 0 < l.queue.emitters) :
      Step l { l with queue := l.queue.cloneEmitter }
  | drops {l : Ledger} (alive : 0 < l.queue.emitters) :
      Step l { l with queue := l.queue.dropEmitter }
  | cancels (l : Ledger) : Step l { l with queue := l.queue.cancel }
  | starts (l : Ledger) : Step l { l with queue := l.queue.start }
  | drains {l : Ledger} {q : EventQueue} {delivered : Option Event}
      (h : l.queue.Drains q delivered) :
      Step l { l with queue := q, delivered := l.delivered ++ delivered.toList }

inductive Reachable (capacity : Nat) : Ledger → Prop where
  | opened : Reachable capacity (.opened capacity)
  | step {l l' : Ledger} : Reachable capacity l → Step l l' → Reachable capacity l'

/-- Every event that was accepted has been delivered or is queued, and every other one is counted. -/
structure Balanced (capacity : Nat) (l : Ledger) : Prop where
  kept : l.accepted = l.delivered ++ l.queue.queued
  counted : l.offered.length = l.accepted.length + l.queue.dropped
  chosen : l.accepted.Sublist l.offered
  capacity_eq : l.queue.capacity = max capacity 1
  bounded : l.queue.queued.length ≤ l.queue.capacity
  /-- The drain closes the queue only if it was canceled. -/
  closed : l.queue.drain = .flushing → l.queue.canceled = true
  emptied : l.queue.drain = .ended →
    l.queue.queued = [] ∧ (l.queue.canceled = true ∨ l.queue.emitters = 0)

section Steps

variable {capacity : Nat} {l l' : Ledger}

theorem balanced_opened (capacity : Nat) : Balanced capacity (opened capacity) where
  kept := rfl
  counted := rfl
  chosen := List.nil_sublist []
  capacity_eq := rfl
  bounded := Nat.zero_le _
  closed := nofun
  emptied := nofun

theorem offered_offer (l : Ledger) (e : Event) : (l.offer e).offered = l.offered ++ [e] := rfl

namespace Balanced

theorem offers (h : Balanced capacity l) (e : Event) : Balanced capacity (l.offer e) := by
  by_cases ha : l.queue.accepts = true
  · have hqueue : (l.offer e).queue = { l.queue with queued := l.queue.queued ++ [e] } :=
      EventQueue.offer_of_accepts ha e
    have haccepted : (l.offer e).accepted = l.accepted ++ [e] := if_pos ha
    have hopen : l.queue.isClosed = false ∧ l.queue.queued.length < l.queue.capacity := by
      simpa [EventQueue.accepts] using ha
    refine ⟨?_, ?_, ?_, ?_, ?_, ?_, ?_⟩
    · rw [haccepted, hqueue, h.kept, List.append_assoc]
      rfl
    · have hcounted := h.counted
      rw [haccepted, hqueue, offered_offer]
      simp only [List.length_append, List.length_singleton]
      omega
    · rw [haccepted]
      exact h.chosen.append (List.Sublist.refl [e])
    · rw [hqueue]
      exact h.capacity_eq
    · rw [hqueue, List.length_append, List.length_singleton]
      exact hopen.2
    · rw [hqueue]
      exact h.closed
    · -- a queue that accepts an event has a drain that is not over
      rw [hqueue]
      intro hended
      rw [EventQueue.isClosed, hended] at hopen
      cases hopen.1
  · have hqueue : (l.offer e).queue = { l.queue with dropped := l.queue.dropped + 1 } :=
      EventQueue.offer_of_not_accepts ha e
    have haccepted : (l.offer e).accepted = l.accepted := if_neg ha
    refine ⟨?_, ?_, ?_, ?_, ?_, ?_, ?_⟩
    · rw [haccepted, hqueue]
      exact h.kept
    · have hcounted := h.counted
      rw [haccepted, hqueue, offered_offer]
      simp only [List.length_append, List.length_singleton]
      omega
    · rw [haccepted]
      exact h.chosen.trans (List.sublist_append_left _ _)
    all_goals rw [hqueue]
    · exact h.capacity_eq
    · exact h.bounded
    · exact h.closed
    · exact h.emptied

theorem delivers (h : Balanced capacity l) {e : Event} {rest : List Event}
    (hqueued : l.queue.queued = e :: rest) :
    Balanced capacity
      { l with queue := { l.queue with queued := rest }, delivered := l.delivered ++ [e] } where
  kept := by rw [h.kept, hqueued, List.append_assoc, List.singleton_append]
  counted := h.counted
  chosen := h.chosen
  capacity_eq := h.capacity_eq
  bounded := by
    have hbounded := h.bounded
    rw [hqueued] at hbounded
    exact Nat.le_of_succ_le hbounded
  closed := h.closed
  emptied hended := by
    have hempty := (h.emptied hended).1
    rw [hqueued] at hempty
    cases hempty

theorem drains (h : Balanced capacity l) {q : EventQueue} {delivered : Option Event}
    (hd : l.queue.Drains q delivered) :
    Balanced capacity { l with queue := q, delivered := l.delivered ++ delivered.toList } := by
  have hnone : l.delivered ++ (none : Option Event).toList = l.delivered := List.append_nil _
  cases hd with
  | receives _ hqueued => exact h.delivers hqueued
  | flushes _ hqueued => exact h.delivers hqueued
  | closes _ hcanceled =>
    rw [hnone]
    exact ⟨h.kept, h.counted, h.chosen, h.capacity_eq, h.bounded, fun _ => hcanceled, nofun⟩
  | runsDry _ hempty hgone =>
    rw [hnone]
    exact ⟨h.kept, h.counted, h.chosen, h.capacity_eq, h.bounded, nofun,
      fun _ => ⟨hempty, .inr hgone⟩⟩
  | finishes hflushing hempty =>
    rw [hnone]
    exact ⟨h.kept, h.counted, h.chosen, h.capacity_eq, h.bounded, nofun,
      fun _ => ⟨hempty, .inl (h.closed hflushing)⟩⟩

end Balanced

/-- A ledger stays balanced, whatever happens next. -/
theorem step_balanced (h : Balanced capacity l) (hs : Step l l') : Balanced capacity l' := by
  cases hs with
  | offers e _ => exact h.offers e
  | drains hd => exact h.drains hd
  | clones halive =>
    -- as long as there is an emitter, only a cancellation ends the drain
    refine ⟨h.kept, h.counted, h.chosen, h.capacity_eq, h.bounded, h.closed, fun hended => ?_⟩
    obtain ⟨hempty, hcanceled | hgone⟩ := h.emptied hended
    · exact ⟨hempty, .inl hcanceled⟩
    · exact absurd hgone (Nat.ne_of_gt halive)
  | drops halive =>
    refine ⟨h.kept, h.counted, h.chosen, h.capacity_eq, h.bounded, h.closed, fun hended => ?_⟩
    obtain ⟨hempty, hcanceled | hgone⟩ := h.emptied hended
    · exact ⟨hempty, .inl hcanceled⟩
    · exact absurd hgone (Nat.ne_of_gt halive)
  | cancels =>
    exact ⟨h.kept, h.counted, h.chosen, h.capacity_eq, h.bounded, fun _ => rfl,
      fun hended => ⟨(h.emptied hended).1, .inl rfl⟩⟩
  | starts =>
    unfold EventQueue.start
    split
    · exact ⟨h.kept, h.counted, h.chosen, h.capacity_eq, h.bounded, nofun, nofun⟩
    · exact h

theorem balanced_of_reachable (h : Reachable capacity l) : Balanced capacity l := by
  induction h with
  | opened => exact balanced_opened capacity
  | step _ hs ih => exact step_balanced ih hs

/-- A queue that is closed stays closed. -/
theorem step_isClosed (hs : Step l l') (h : l.queue.isClosed = true) :
    l'.queue.isClosed = true := by
  cases hs with
  | offers e _ =>
    have hqueue : (l.offer e).queue = { l.queue with dropped := l.queue.dropped + 1 } :=
      EventQueue.offer_of_not_accepts (EventQueue.not_accepts_of_isClosed h) e
    rw [hqueue]
    exact h
  | clones _ => exact h
  | drops _ => exact h
  | cancels => exact h
  | starts =>
    unfold EventQueue.start
    split
    · rename_i hidle
      rw [EventQueue.isClosed, hidle] at h
      cases h
    · exact h
  | drains hd => exact EventQueue.isClosed_of_drains hd h

theorem isClosed_of_steps (hs : Relation.ReflTransGen Step l l')
    (h : l.queue.isClosed = true) : l'.queue.isClosed = true := by
  induction hs with
  | refl => exact h
  | tail _ hstep ih => exact step_isClosed hstep ih

end Steps

/-! ## Histories of a queue whose drain runs until it waits -/

/-- The drain runs until it waits or ends. -/
def settled (l : Ledger) : Ledger :=
  { l with queue := l.queue.settle.1, delivered := l.delivered ++ l.queue.settle.2 }

theorem Reachable.steps {capacity : Nat} (fuel : Nat) {l : Ledger} (h : Reachable capacity l) :
    Reachable capacity { l with
      queue := (l.queue.steps fuel).1
      delivered := l.delivered ++ (l.queue.steps fuel).2 } := by
  induction fuel generalizing l with
  | zero => simpa [EventQueue.steps] using h
  | succ fuel ih =>
    cases hstep : l.queue.step? with
    | none => simpa [EventQueue.steps, hstep] using h
    | some next =>
      obtain ⟨q, delivered⟩ := next
      have hnext := ih (h.step (.drains (EventQueue.drains_of_step? hstep)))
      simpa only [EventQueue.steps, hstep, List.append_assoc] using hnext

theorem Reachable.settle {capacity : Nat} {l : Ledger} (h : Reachable capacity l) :
    Reachable capacity l.settled := h.steps _

/-- Whatever the emitters and the drain have done so far, every event offered has been delivered, is
queued or was counted as dropped. The events delivered are the first of those accepted, in order,
and at most the capacity is queued. Once the drain is over, which takes a cancellation or the loss
of every emitter, all events accepted have been delivered, and to a closed queue every further
offer is counted and has no other effect. -/
theorem events_conserved {capacity : Nat} {l : Ledger} (h : Reachable capacity l) :
    l.offered.length = l.delivered.length + l.queue.queued.length + l.queue.dropped ∧
    l.accepted.Sublist l.offered ∧ l.accepted = l.delivered ++ l.queue.queued ∧
    l.delivered <+: l.accepted ∧
    l.queue.queued.length ≤ max capacity 1 ∧
    (l.queue.drain = .ended →
      l.delivered = l.accepted ∧ (l.queue.canceled = true ∨ l.queue.emitters = 0)) ∧
    (l.queue.isClosed = true → ∀ l', Relation.ReflTransGen Step l l' → ∀ e,
      l'.queue.offer e = { l'.queue with dropped := l'.queue.dropped + 1 }) := by
  have hbalanced := balanced_of_reachable h
  refine ⟨?_, hbalanced.chosen, hbalanced.kept, ?_, ?_, ?_, ?_⟩
  · rw [hbalanced.counted, hbalanced.kept, List.length_append]
  · rw [hbalanced.kept]
    exact List.prefix_append _ _
  · rw [← hbalanced.capacity_eq]
    exact hbalanced.bounded
  · intro hended
    obtain ⟨hempty, hcause⟩ := hbalanced.emptied hended
    rw [hbalanced.kept, hempty, List.append_nil]
    exact ⟨rfl, hcause⟩
  · intro hclosed l' hl' e
    exact EventQueue.offer_of_not_accepts
      (EventQueue.not_accepts_of_isClosed (isClosed_of_steps hl' hclosed)) e

/-- Of three events the second finds the queue full, and the third comes after the cancellation. -/
theorem events_conserved_of_late_offer :
    let event (details : String) : Event := .error .relationshipCheckFailed details
    let full := ((opened 0).offer (event "1")).offer (event "2")
    let canceled : Ledger := { full with queue := full.queue.start.cancel }
    let l := canceled.settled.offer (event "3")
    Reachable 0 l ∧ l.queue.drain = .ended ∧ l.delivered = l.accepted ∧
      l.delivered = [event "1"] ∧ l.queue.dropped = 2 ∧ l.offered.length = 1 + 0 + 2 := by
  intro event full canceled l
  have hfull : Reachable 0 full :=
    .step (.step .opened (.offers _ Nat.zero_lt_one)) (.offers _ (by decide +kernel))
  have hcanceled : Reachable 0 canceled := .step (.step hfull (.starts _)) (.cancels _)
  have hl : Reachable 0 l := .step hcanceled.settle (.offers _ (by decide +kernel))
  have hended : l.queue.drain = .ended := by decide +kernel
  have hdelivered : l.delivered = [event "1"] := by decide +kernel
  have hdropped : l.queue.dropped = 2 := by decide +kernel
  have hempty : l.queue.queued = [] := by decide +kernel
  obtain ⟨hcount, _, _, _, _, hover, _⟩ := events_conserved hl
  refine ⟨hl, hended, (hover hended).1, hdelivered, hdropped, ?_⟩
  rw [hcount, hdelivered, hempty, hdropped]
  rfl

end Ledger

end ScopedAccess
