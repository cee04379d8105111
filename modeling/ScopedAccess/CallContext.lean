import ScopedAccess.Timeline

/-!
# ScopedAccess.CallContext

What a caller sends along with a request: names to recognize the call by, and when it stops being
interested. A call may be canceled and may have a deadline. Work at the instant of a cancellation
still happens, work at the instant of a deadline does not.
-/

namespace ScopedAccess

/-- The circumstances of a call. -/
structure CallContext where
  requestId : Option String
  identity : Option String
  /-- Milliseconds until the caller cancels; zero is before the call begins. -/
  cancelAfter : Option Nat
  /-- Milliseconds until the deadline; zero is a deadline that has passed. -/
  deadline : Option Nat
deriving DecidableEq, Inhabited

/-- When a call stops: it does no work from `limit` on, and it returns at `instant`. -/
structure Interruption where
  limit : Nat
  instant : Nat
deriving DecidableEq

/-- What is left of an interruption after some time. -/
def Interruption.after (i : Interruption) (elapsed : Nat) : Interruption :=
  ⟨i.limit - elapsed, i.instant - elapsed⟩

/-- Work that is given up at an interruption, if there is one; it ends then with the value given. -/
def Run.guarded (r : Run ε α) (stop : Option Interruption) (interrupted : α) : Run ε α :=
  match stop with
  | none => r
  | some i => r.stoppedBefore i.limit i.instant interrupted

namespace CallContext

/-- A call that nobody interrupts. -/
def background : CallContext := ⟨none, none, none, none⟩

/-- The call after its caller has canceled it. -/
def canceled (c : CallContext) : CallContext := { c with cancelAfter := some 0 }

/-- Whether the caller has canceled the call before it begins. -/
def isCanceledByCaller (c : CallContext) : Bool := c.cancelAfter == some 0

/-- Whether a call is canceled or its deadline has passed before it begins. -/
def isCanceled (c : CallContext) : Bool := c.isCanceledByCaller || c.deadline == some 0

/-- At the instant of the deadline the call is over before its work goes on. -/
def byDeadline (c : CallContext) : Option Interruption :=
  c.deadline.map fun d => ⟨d, d⟩

/-- At the very instant of a cancellation the work is taken to be ready first, so that what ends
then still counts. That is a choice: a cancellation that is ready is heeded before any work, but
which of the two is ready first at one instant is open. -/
def byCaller (c : CallContext) : Option Interruption :=
  c.cancelAfter.map fun n => ⟨if n = 0 then 0 else n + 1, n⟩

def interruption? (c : CallContext) : Option Interruption :=
  match c.byCaller, c.byDeadline with
  | some x, some y => if x.limit ≤ y.limit then some x else some y
  | some x, none => some x
  | none, y => y

end CallContext

end ScopedAccess
