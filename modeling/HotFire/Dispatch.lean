import HotFire.Safety

/-! What a command does: the writes it makes, the flags it leaves and whether it
was applied. Presets belong to one engine and are ignored on the others. -/

namespace HotFire

inductive Verdict where
  | applied
  | ignored
  deriving DecidableEq, Repr

def Verdict.name : Verdict → String
  | .applied => "Applied"
  | .ignored => "Ignored"

namespace Command

def titanPreset? : Command → Option (String × List PinWrite)
  | .leakCheck =>
    some ("leak check", [(Pin.mainValve, .high), (Pin.ventValve, .high), (Pin.tankValve, .high)])
  | .fill => some ("fill", [(Pin.mainValve, .high), (Pin.ventValve, .high), (Pin.tankValve, .low)])
  | .fillIdle =>
    some ("fill idle", [(Pin.mainValve, .low), (Pin.ventValve, .high), (Pin.tankValve, .high)])
  | .restValves =>
    some ("default", [(Pin.mainValve, .low), (Pin.ventValve, .low), (Pin.tankValve, .high)])
  | .tapeOn => some ("heating tape on", [(Pin.heatingTape, .high)])
  | .tapeOff => some ("heating tape off", [(Pin.heatingTape, .low)])
  | .setWater => some ("vent open", [(Pin.ventValve, .low)])
  | .unsetWater => some ("vent closed", [(Pin.ventValve, .high)])
  | _ => none

def lunaPreset? : Command → Option (String × PinWrite)
  | .setWater => some ("water on", (Pin.waterValve, .high))
  | .unsetWater => some ("water off", (Pin.waterValve, .low))
  | .setGitvc => some ("GITVC on", (Pin.gitvcValve, .low))
  | .unsetGitvc => some ("GITVC off", (Pin.gitvcValve, .high))
  | _ => none

end Command

structure Handled where
  verdict : Verdict
  flags : SafetyFlags
  writes : List PinWrite
  notices : List Notice

namespace Handled

def ignored (f : SafetyFlags) (n : Notice) : Handled := ⟨.ignored, f, [], [n]⟩

def driver (channel : UInt8) (level : Level) (f : SafetyFlags) : Handled :=
  match Pin.drivers[channel.toNat]? with
  | some pin => ⟨.applied, f, [(pin, level)], []⟩
  | none => ignored f (.driverMissing channel)

/-- A start that is accepted also clears the pressure shutoff. -/
def startIgnition (f : SafetyFlags) : Handled :=
  match f.requestIgnition with
  | (false, _) => ignored f .burnInFlight
  | (true, f) => ⟨.applied, f.setShutoff false, [], f.shutoffNotices false ++ [.ignitionRequested]⟩

/-- A stop closes igniter and main valve at once, burn or no burn. -/
def stopIgnition (f : SafetyFlags) : Handled :=
  let (active, f) := f.clearIgnition
  ⟨.applied, f, [(Pin.igniter, .low), (Pin.mainValve, .low)],
    if active then [.ignitionStopped] else []⟩

def base (profile : EngineProfile) (c : Command) (f : SafetyFlags) : Handled :=
  match c with
  | .setDriver k => driver k .high f
  | .unsetDriver k => driver k .low f
  | .startIgnition => startIgnition f
  | .stopIgnition => stopIgnition f
  | c => ignored f (.commandUnavailable c profile.kind)

/-- The preset that the engine knows under this command, if any. -/
def preset? (profile : EngineProfile) (c : Command) (f : SafetyFlags) : Option Handled :=
  match profile with
  | .generic => none
  | .titan => c.titanPreset?.map fun (label, ws) => ⟨.applied, f, ws, [.titanPreset label]⟩
  | .luna _ => c.lunaPreset?.map fun (label, w) => ⟨.applied, f, [w], [.lunaPreset label w.1]⟩

end Handled

namespace Command

/-- Handles a command: the engine's own presets first, then what all engines
share. -/
def handle (profile : EngineProfile) (c : Command) (f : SafetyFlags) : Handled :=
  let h := (Handled.preset? profile c f).getD (Handled.base profile c f)
  { h with notices := .commandTaken c :: h.notices }

end Command

/-- What handling one byte amounts to; an unknown opcode changes nothing. -/
structure ByteHandled where
  verdict : Except UnknownCommand Verdict
  flags : SafetyFlags
  writes : List PinWrite
  notices : List Notice

def handleByte (profile : EngineProfile) (byte : UInt8) (f : SafetyFlags) : ByteHandled :=
  match Command.ofOpcode byte with
  | .ok c =>
    let h := c.handle profile f
    ⟨.ok h.verdict, h.flags, h.writes, h.notices⟩
  | .error e => ⟨.error e, f, [], [.commandUnknown e]⟩

end HotFire
