/-!
# ScopedAccess.Duration

Lengths of time, in whole nanoseconds and less than `2^64` seconds.

* `ofNanos?` refuses what is too long.
* `wholeMillis` rounds down and is what messages show; `ticks` rounds up and is when a timer of
  millisecond steps that waits for the duration goes off.
* `wait` is what a timer makes of a duration: clocks hold less than `2^63` seconds.
-/

namespace ScopedAccess

/-- A length of time. -/
structure Duration where
  nanos : Nat
  bounded : nanos < UInt64.size * 1000000000
deriving DecidableEq

namespace Duration

/-- A length in nanoseconds, if it is not too long. -/
def ofNanos? (n : Nat) : Option Duration :=
  if h : n < UInt64.size * 1000000000 then some ⟨n, h⟩ else none

/-- No time at all. -/
def zero : Duration := ⟨0, by decide⟩

instance : Inhabited Duration := ⟨zero⟩

/-- A number of milliseconds that fits 64 bits. -/
def ofMillis (n : UInt64) : Duration :=
  ⟨n.toNat * 1000000, by have := n.toNat_lt; simp only [UInt64.size]; omega⟩

/-- A number of seconds that fits 64 bits. -/
def ofSeconds (n : UInt64) : Duration :=
  ⟨n.toNat * 1000000000, by have := n.toNat_lt; simp only [UInt64.size]; omega⟩

def isZero (d : Duration) : Bool := d.nanos == 0

/-- Milliseconds, rounded down. -/
def wholeMillis (d : Duration) : Nat := d.nanos / 1000000

/-- The nanoseconds a timer waits. One that is set beyond the end of its clock waits thirty
years. -/
def wait (d : Duration) : Nat :=
  if d.nanos < UInt64.size / 2 * 1000000000 then d.nanos else 30 * 365 * 86400 * 1000000000

/-- The milliseconds a timer waits, rounded up. -/
def ticks (d : Duration) : Nat := (d.wait + 999999) / 1000000

theorem ofNanos?_nanos (d : Duration) : ofNanos? d.nanos = some d :=
  dif_pos d.bounded

end Duration

end ScopedAccess
