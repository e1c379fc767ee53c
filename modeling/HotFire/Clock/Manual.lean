import HotFire.Clock.Pacing

/-! A clock that is moved by hand: a 64-bit count of nanoseconds. -/

namespace HotFire

def maxNanos : Nat := UInt64.size - 1

/-- A span as a 64-bit count, the largest one if it does not fit. -/
def saturateNanos (n : Nat) : UInt64 := UInt64.ofNat (min n maxNanos)

structure ManualClock where
  nanos : UInt64 := 0
  deriving DecidableEq, Repr

namespace ManualClock

def elapsed (c : ManualClock) : Nat := c.nanos.toNat

/-- Adds a span; the count wraps around at its end. -/
def advance (c : ManualClock) (span : Nat) : ManualClock := ⟨c.nanos + saturateNanos span⟩

/-- Moves the clock to a time, unless it is past it already. -/
def set (c : ManualClock) (time : Nat) : ManualClock := ⟨max c.nanos (saturateNanos time)⟩

/-- Sleeping on it is advancing it. -/
def clock : Clock ManualClock where
  time := elapsed
  look := fun c => c
  sleep := advance

/-- Sleeps for at least a period; a clock that cannot get there stays where it
is. -/
def sleepAtLeast (c : ManualClock) (period : Nat) : ManualClock :=
  match clock.sleepAtLeast period c with
  | some (_, c') => c'
  | none => c

end ManualClock

/-- A clock whose sleeps are short: asked for `d` it passes `d / divisor`, and at
least one nanosecond. -/
def shortSleep (divisor d : Nat) : Nat := max (d / divisor) 1

def shortSleeper (divisor : Nat) : Clock Nat where
  time := id
  look := id
  sleep := fun now d => now + shortSleep divisor d

end HotFire
