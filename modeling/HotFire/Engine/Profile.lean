import HotFire.Pins

/-! What differs between the engines: which valves a burn opens and closes, which
levels are safe, and the pulse plan of the Luna GITVC valve. Times are in
nanoseconds. -/

namespace HotFire

def nanosPerMilli : Nat := 1000000

inductive EngineKind where
  | generic
  | luna
  | titan
  deriving DecidableEq, Repr

def EngineKind.name : EngineKind → String
  | .generic => "Generic"
  | .luna => "Luna"
  | .titan => "Titan"

/-- Open for each of `pulses` in turn, `between` apart, the first `wait` after
the main valve. -/
structure GitvcPlan where
  wait : Nat
  between : Nat
  pulses : List Nat
  deriving DecidableEq, Repr

namespace GitvcPlan

def maxPulses : Nat := 16

/-- The plan for pulse lengths in milliseconds; pulses past the sixteenth are
left out. -/
def ofMillis (pulses : List Nat) (wait between : Nat) : GitvcPlan where
  wait := wait * nanosPerMilli
  between := between * nanosPerMilli
  pulses := (pulses.take maxPulses).map (· * nanosPerMilli)

end GitvcPlan

inductive EngineProfile where
  | generic
  | luna (gitvc : Option GitvcPlan)
  | titan
  deriving DecidableEq, Repr

namespace EngineProfile

def kind : EngineProfile → EngineKind
  | .generic => .generic
  | .luna _ => .luna
  | .titan => .titan

def name (p : EngineProfile) : String := p.kind.name

def gitvc? : EngineProfile → Option GitvcPlan
  | .luna plan => plan
  | _ => none

/-- What the sequencer writes to begin hotflow. The Titan valves are open at
low, its tank valve apart. -/
def openLevels : EngineProfile → List PinWrite
  | .generic | .luna _ => [(Pin.mainValve, .high)]
  | .titan => [(Pin.mainValve, .low), (Pin.ventValve, .low), (Pin.tankValve, .high)]

/-- What the sequencer writes when a burn ends, for whatever reason. -/
def endLevels : EngineProfile → List PinWrite
  | .generic => [(Pin.mainValve, .low), (Pin.igniter, .low)]
  | .luna _ =>
    [(Pin.mainValve, .low), (Pin.igniter, .low), (Pin.gitvcValve, .high), (Pin.waterValve, .low)]
  | .titan => [(Pin.igniter, .low)]

/-- The level of each engine line while nothing burns. -/
def safeLevels : EngineProfile → List PinWrite
  | .generic => [(Pin.igniter, .low), (Pin.mainValve, .low)]
  | .luna _ =>
    [(Pin.igniter, .low), (Pin.mainValve, .low), (Pin.waterValve, .low), (Pin.gitvcValve, .high)]
  | .titan =>
    [(Pin.igniter, .low), (Pin.mainValve, .low), (Pin.ventValve, .low), (Pin.tankValve, .high),
      (Pin.heatingTape, .low)]

/-- The level at which a line is requested from the board. -/
def initialLevel (p : EngineProfile) (pin : Pin) : Level :=
  match p.safeLevels.find? (·.1 == pin) with
  | some (_, level) => level
  | none => .low

end EngineProfile

end HotFire
