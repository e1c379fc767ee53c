import HotFire.Board.Simulated
import HotFire.Rig
import HotFire.Session

/-! A test stand on the bench: the controller with a clock moved by hand, a
simulated converter and a telemetry link that can be made to fail. -/

namespace HotFire

structure Stand where
  rig : Rig
  clock : ManualClock := {}
  converter : SimulatedConverter := {}
  link : Option LinkFault := none

namespace Stand

def ofGroups (profile : EngineProfile) (timing : BurnTiming) (groups : List SensorGroup)
    (shutoffEnabled : Bool) : Stand × List Notice :=
  let (rig, notices) :=
    Rig.ofLoops profile timing (groups.map (SamplingLoop.ofGroup · shutoffEnabled))
  ({ rig }, notices)

def now (s : Stand) : Nat := s.clock.elapsed

def act (s : Stand) (a : Action) : Stand × Report :=
  let (rig, report) := s.rig.act a
  ({ s with rig }, report)

def advance (s : Stand) (span : Nat) : Stand := { s with clock := s.clock.advance span }

def setClock (s : Stand) (time : Nat) : Stand := { s with clock := s.clock.set time }

def inject (s : Stand) (sensor : Sensor) (raw : Option UInt16) : Stand :=
  { s with converter := s.converter.inject sensor raw }

def setLink (s : Stand) (link : Option LinkFault) : Stand := { s with link }

def byte (s : Stand) (b : UInt8) : Stand × Except UnknownCommand Verdict × Report :=
  let h := handleByte s.rig.profile b s.rig.flags
  ({ s with rig := { s.rig with flags := h.flags } }, h.verdict,
    { writes := h.writes, notices := h.notices })

def serve (s : Stand) (events : List ReadEvent) : Stand × Session :=
  let session := Session.serve s.rig.profile events s.rig.flags
  ({ s with rig := { s.rig with flags := session.flags } }, session)

/-- The operator's request for a burn, past the dispatcher. -/
def requestIgnition (s : Stand) : Stand × Bool :=
  let (granted, flags) := s.rig.flags.requestIgnition
  ({ s with rig := { s.rig with flags } }, granted)

def clearIgnition (s : Stand) : Stand × Bool :=
  let (was, flags) := s.rig.flags.clearIgnition
  ({ s with rig := { s.rig with flags } }, was)

def step (s : Stand) : Stand × Report := s.act (.step s.now)

/-- One pass of a loop, its conversions made by the simulated converter at the
present time. -/
def sample (s : Stand) (loop : Nat) : Stand × Report :=
  let sensors := match s.rig.loops[loop]? with
    | some l => l.slots.map (·.spec.sensor)
    | none => []
  let (raws, converter) := s.converter.readAll sensors
  let conversions := raws.map fun raw => { raw, time := s.now, link := s.link }
  { s with converter }.act (.pass loop conversions)

def tick (s : Stand) (loop : Nat) : Stand × Report :=
  let period := match s.rig.loops[loop]? with
    | some l => l.period
    | none => 0
  { s with clock := s.clock.sleepAtLeast period }.sample loop

end Stand

namespace Report

def sentFrames (r : Report) : List (List UInt8) :=
  r.samples.filterMap fun
    | .frame _ bytes none => some bytes
    | _ => none

end Report

end HotFire
