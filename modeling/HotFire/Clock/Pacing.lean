/-! Clocks, and sleeping for at least a period on a clock whose sleeps may end
early. Times are in nanoseconds. -/

namespace HotFire

/-- A clock over the states of its surroundings: what it reads, what a reading
leaves behind (time may pass), and what a sleep leaves behind. -/
structure Clock (σ : Type) where
  time : σ → Nat
  look : σ → σ
  sleep : σ → Nat → σ

/-- One requested sleep and the time it was requested at. -/
structure Nap where
  asked : Nat
  length : Nat
  deriving DecidableEq, Repr

def remaining? (deadline now : Nat) : Option Nat :=
  if deadline ≤ now then none else some (deadline - now)

namespace Clock

variable {σ : Type}

/-- Sleeps until the clock reads `deadline` or later, for at most `naps` sleeps;
gives the sleeps requested and the state at the reading that ended it. -/
def sleepUntil (c : Clock σ) (deadline : Nat) : Nat → σ → Option (List Nap × σ)
  | naps, s =>
    match remaining? deadline (c.time s) with
    | none => some ([], c.look s)
    | some d =>
      match naps with
      | 0 => none
      | naps + 1 =>
        (sleepUntil c deadline naps (c.sleep (c.look s) d)).map fun (taken, s') =>
          (⟨c.time s, d⟩ :: taken, s')

/-- Sleeps for at least `period`. On a clock that gains at least one nanosecond
by each sleep, `period` sleeps are enough. -/
def sleepAtLeast (c : Clock σ) (period : Nat) (s : σ) : Option (List Nap × σ) :=
  sleepUntil c (c.time s + period) period (c.look s)

end Clock

end HotFire
