import HotFire.Notice

/-! The two flags that commands, sampling and the sequencer share. -/

namespace HotFire

structure SafetyFlags where
  ignition : Bool := false
  shutoff : Bool := false
  deriving DecidableEq, Repr

namespace SafetyFlags

/-- Asks for a burn; refused while one is asked for or running. -/
def requestIgnition (f : SafetyFlags) : Bool × SafetyFlags :=
  (!f.ignition, { f with ignition := true })

/-- Withdraws the request; says whether there was one. -/
def clearIgnition (f : SafetyFlags) : Bool × SafetyFlags :=
  (f.ignition, { f with ignition := false })

/-- The shutoff is a level and not a latch. -/
def setShutoff (on : Bool) (f : SafetyFlags) : SafetyFlags :=
  { f with shutoff := on }

/-- Only an edge of the shutoff is worth a notice. -/
def shutoffNotices (on : Bool) (f : SafetyFlags) : List Notice :=
  match f.shutoff, on with
  | false, true => [.shutoffSet]
  | true, false => [.shutoffCleared]
  | _, _ => []

end SafetyFlags

end HotFire
