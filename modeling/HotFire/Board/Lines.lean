import HotFire.Notice

/-! The bank of output lines: writes by line number, and the levels that make the
stand safe. -/

namespace HotFire

/-- A line that has been opened; a broken one refuses every write. -/
structure OutputLine where
  tag : Nat
  broken : Bool := false
  deriving DecidableEq, Repr

structure LineBank where
  lines : List (Pin × OutputLine)

/-- What writing to a bank does: the levels that lines took, by their tags. -/
structure LineWrites where
  taken : List (Nat × Level) := []
  notices : List Notice := []

namespace LineBank

def empty : LineBank := ⟨[]⟩

/-- Maps a line; the one that had the number before is dropped. -/
def withLine (b : LineBank) (pin : Pin) (line : OutputLine) : LineBank :=
  ⟨b.lines.filter (·.1 != pin) ++ [(pin, line)]⟩

def isMapped (b : LineBank) (pin : Pin) : Bool := b.lines.any (·.1 == pin)

def write (b : LineBank) (w : PinWrite) : LineWrites :=
  match b.lines.find? (·.1 == w.1) with
  | none => { notices := [.pinUnmapped w.1 w.2] }
  | some (_, line) =>
    if line.broken then { notices := [.pinWriteFailed w.1 w.2] }
    else { taken := [(line.tag, w.2)] }

def writeAll (b : LineBank) (ws : List PinWrite) : LineWrites where
  taken := ws.flatMap fun w => (b.write w).taken
  notices := ws.flatMap fun w => (b.write w).notices

/-- The mapped chip selects go high, the engine lines to their safe levels, and
the drivers low. -/
def safeWrites (b : LineBank) (p : EngineProfile) : List PinWrite :=
  (Pin.chipSelects.filter b.isMapped).map (·, .high) ++ p.safeLevels ++
    Pin.drivers.map (·, .low)

def driveSafeDefaults (b : LineBank) (p : EngineProfile) : LineWrites :=
  let w := b.writeAll (b.safeWrites p)
  { w with notices := w.notices ++ [.safeDefaultsApplied p.kind] }

end LineBank

end HotFire
