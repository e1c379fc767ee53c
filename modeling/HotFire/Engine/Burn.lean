/-! The four states of the ignition sequence, how a burn can end, and the times
that govern it. Times are in nanoseconds. -/

namespace HotFire

inductive BurnState where
  | idle
  | igniting
  | mainValveOpen
  | ending
  deriving DecidableEq, Repr

namespace BurnState

def all : List BurnState := [.idle, .igniting, .mainValveOpen, .ending]

def name : BurnState → String
  | .idle => "Idle"
  | .igniting => "Igniting"
  | .mainValveOpen => "MainValveOpen"
  | .ending => "Ending"

end BurnState

inductive BurnOutcome where
  | completed
  | aborted
  | pressureShutoff
  deriving DecidableEq, Repr

/-- `preignite` and `hotflow` count from the igniter, `shutoffArm` is how long a
pressure shutoff leaves a burn alone, and `poll` is the sequencer's interval. -/
structure BurnTiming where
  preignite : Nat
  hotflow : Nat
  shutoffArm : Nat
  poll : Nat
  deriving DecidableEq, Repr

end HotFire
