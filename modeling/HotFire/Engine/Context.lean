import HotFire.Engine.PulseTrain
import HotFire.Safety

/-! What a burn is decided on: the inputs of the moment, the times and valves of
the engine, and the writes still to be made. -/

namespace HotFire

/-- `writes` and `notices` hold what has been asked for and not yet been
carried out. -/
structure BurnContext where
  now : Nat
  ignition : Bool
  shutoff : Bool
  profile : EngineProfile
  timing : BurnTiming
  t0 : Nat
  outcome : Option BurnOutcome
  train : Option PulseTrain
  writes : List PinWrite
  clearIgnition : Bool
  notices : List Notice

namespace BurnContext

def maxWrites : Nat := 8

def fresh (profile : EngineProfile) (timing : BurnTiming) : BurnContext where
  now := 0
  ignition := false
  shutoff := false
  profile := profile
  timing := timing
  t0 := 0
  outcome := none
  train := none
  writes := []
  clearIgnition := false
  notices := []

/-- Time since the igniter went on, zero if the clock shows less. -/
def elapsed (c : BurnContext) : Nat := c.now - c.t0

def note (c : BurnContext) (n : Notice) : BurnContext :=
  { c with notices := c.notices ++ [n] }

/-- Queues a write; a full queue drops it. -/
def write (c : BurnContext) (w : PinWrite) : BurnContext :=
  if c.writes.length < maxWrites then { c with writes := c.writes ++ [w] }
  else c.note (.writeDropped w.1 w.2)

def writeAll (c : BurnContext) (ws : List PinWrite) : BurnContext :=
  ws.foldl write c

/-- Why the burn may not go on: the operator has withdrawn it, or the pressure
shutoff is set and old enough to count. -/
def abortReason (c : BurnContext) : Option BurnOutcome :=
  if !c.ignition then some .aborted
  else if c.shutoff && c.timing.shutoffArm ≤ c.elapsed then some .pressureShutoff
  else none

end BurnContext

end HotFire
