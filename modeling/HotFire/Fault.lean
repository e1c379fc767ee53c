/-! Faults of the outside world: the telemetry link and the board. -/

namespace HotFire

inductive LinkFault where
  | sendFailed (detail : String)
  | shortWrite (sent expected : Nat)
  | bindFailed (detail : String)
  deriving DecidableEq, Repr

def LinkFault.message : LinkFault → String
  | .sendFailed detail => s!"send failed: {detail}"
  | .shortWrite sent expected => s!"short write: {sent} of {expected} bytes"
  | .bindFailed detail => s!"bind failed: {detail}"

inductive BoardFault where
  | line (pin : Nat) (reason : String)
  | bus (path reason : String)
  deriving DecidableEq, Repr

def BoardFault.message : BoardFault → String
  | .line pin reason => s!"GPIO{pin}: {reason}"
  | .bus path reason => s!"{path}: {reason}"

end HotFire
