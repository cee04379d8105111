/-!
# ScopedAccess.Timeline

Work that takes time. Instants are milliseconds after the work began.

* `Reply` is the answer of somebody else: a value after a while, or silence.
* `Run` is a piece of work: the effects it has, each at its instant, and the instant and value it
  ends with, if it ends.
* `andThen` runs one piece after another (`andThenAt` tells the second when the first ended),
  `beside` two at a time, `all` any number at a time. Work side by side ends when its last piece
  ends; of effects at one instant those of the left piece come first.
* `within` gives work a limit: work that ends at the limit is still in time, later work is given
  up.
* `stoppedBefore` keeps what happens before an instant, if the work does not end before it.
-/

namespace ScopedAccess

/-- The answer of somebody else. -/
inductive Reply (α : Type) where
  | after (millis : Nat) (value : α)
  | silent
deriving Inhabited

def Reply.atOnce (value : α) : Reply α := .after 0 value

/-- The same answer with its value changed. -/
def Reply.map (f : α → β) : Reply α → Reply β
  | .after millis value => .after millis (f value)
  | .silent => .silent

/-- Effects of a piece of work, and the instant and value it ends with. -/
structure Run (ε α : Type) where
  trace : List (Nat × ε)
  ending : Option (Nat × α)

namespace Run

def done (value : α) : Run ε α := ⟨[], some (0, value)⟩

def emit (effect : ε) : Run ε Unit := ⟨[(0, effect)], some (0, ())⟩

/-- Work that has some effects at once. -/
def emitAll (effects : List ε) : Run ε Unit := ⟨effects.map fun e => (0, e), some (0, ())⟩

def await : Reply α → Run ε α
  | .after millis value => ⟨[], some (millis, value)⟩
  | .silent => ⟨[], none⟩

def shift (delay : Nat) (trace : List (Nat × ε)) : List (Nat × ε) :=
  trace.map fun (t, e) => (delay + t, e)

/-- Work that begins later. -/
def later (delay : Nat) (r : Run ε α) : Run ε α :=
  ⟨shift delay r.trace, r.ending.map fun (t, a) => (delay + t, a)⟩

/-- Work that goes on with the value of other work and the instant it ended at. -/
def andThenAt (r : Run ε α) (next : Nat → α → Run ε β) : Run ε β :=
  match r.ending with
  | none => ⟨r.trace, none⟩
  | some (t, a) =>
    let rest := (next t a).later t
    ⟨r.trace ++ rest.trace, rest.ending⟩

/-- Work that goes on with the value of other work. -/
def andThen (r : Run ε α) (next : α → Run ε β) : Run ε β := r.andThenAt fun _ => next

def map (f : α → β) (r : Run ε α) : Run ε β :=
  ⟨r.trace, r.ending.map fun (t, a) => (t, f a)⟩

/-- Two traces in one, by instant. -/
def mergeTraces (xs ys : List (Nat × ε)) : List (Nat × ε) :=
  List.merge xs ys fun x y => x.1 ≤ y.1

/-- The end of work whose two pieces both have to end. -/
def bothEndings : Option (Nat × α) → Option (Nat × β) → Option (Nat × (α × β))
  | some (s, a), some (t, b) => some (max s t, (a, b))
  | _, _ => none

/-- Two pieces of work at a time. -/
def beside (r : Run ε α) (s : Run ε β) : Run ε (α × β) :=
  ⟨mergeTraces r.trace s.trace, bothEndings r.ending s.ending⟩

/-- Any number of pieces of work at a time. -/
def all : List (Run ε α) → Run ε (List α)
  | [] => done []
  | r :: rs => (r.beside (all rs)).map fun (a, as) => a :: as

/-- Whether work ends before an instant. -/
def endsBefore (limit : Nat) (r : Run ε α) : Bool :=
  match r.ending with
  | some (t, _) => t < limit
  | none => false

/-- What happens before an instant. -/
def before (limit : Nat) (trace : List (Nat × ε)) : List (Nat × ε) :=
  trace.filter fun x => x.1 < limit

/-- Work that has a limit, and a value for when it is exceeded. -/
def within (limit : Nat) (late : α) (r : Run ε α) : Run ε α :=
  if r.endsBefore (limit + 1) then r
  else ⟨before (limit + 1) r.trace, some (limit, late)⟩

/-- Work that is stopped unless it ends before an instant. What it does before that instant still
happens, and the work ends at `instant` with the value given. -/
def stoppedBefore (limit instant : Nat) (value : α) (r : Run ε α) : Run ε α :=
  if r.endsBefore limit then r
  else ⟨before limit r.trace, some (instant, value)⟩

/-- The effects, without their instants. -/
def effects (r : Run ε α) : List ε := r.trace.map Prod.snd

def value? (r : Run ε α) : Option α := r.ending.map Prod.snd

end Run

end ScopedAccess
