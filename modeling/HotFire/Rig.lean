import HotFire.Dispatch
import HotFire.Engine.Sequencer
import HotFire.Sampling

/-! The controller as one machine: commands, sampling passes and sequencer steps
take turns on the shared flags. Every interleaving of complete calls is a list of
actions, and `run` is their fold. -/

namespace HotFire

structure Rig where
  profile : EngineProfile
  flags : SafetyFlags
  sequencer : Sequencer
  loops : List SamplingLoop

/-- One complete call. A step and a pass carry the times they are made at. -/
inductive Action where
  | command (c : Command)
  | setShutoff (on : Bool)
  | step (now : Nat)
  | pass (loop : Nat) (conversions : List Conversion)

/-- What an action does outside the rig. A verdict comes with a command and a
state with a step. -/
structure Report where
  verdict : Option Verdict := none
  state : Option BurnState := none
  writes : List PinWrite := []
  samples : List SampleEvent := []
  notices : List Notice := []

namespace Rig

def ofLoops (profile : EngineProfile) (timing : BurnTiming) (loops : List SamplingLoop) :
    Rig × List Notice :=
  let (sequencer, notices) := Sequencer.start profile timing
  ({ profile, flags := {}, sequencer, loops }, notices)

def command (r : Rig) (c : Command) : Rig × Report :=
  let h := c.handle r.profile r.flags
  ({ r with flags := h.flags },
    { verdict := some h.verdict, writes := h.writes, notices := h.notices })

def setShutoff (r : Rig) (on : Bool) : Rig × Report :=
  ({ r with flags := r.flags.setShutoff on }, { notices := r.flags.shutoffNotices on })

def step (r : Rig) (now : Nat) : Rig × Report :=
  let s := r.sequencer.step now r.flags
  ({ r with sequencer := s.sequencer, flags := s.flags r.flags },
    { state := some s.sequencer.state, writes := s.writes, notices := s.notices })

/-- A pass of a loop that does not exist does nothing. -/
def pass (r : Rig) (loop : Nat) (cs : List Conversion) : Rig × Report :=
  match r.loops[loop]? with
  | none => (r, {})
  | some l =>
    let p := l.pass cs r.flags
    ({ r with loops := r.loops.set loop p.loop, flags := p.flags },
      { samples := p.events, notices := p.notices })

def act (r : Rig) : Action → Rig × Report
  | .command c => r.command c
  | .setShutoff on => r.setShutoff on
  | .step now => r.step now
  | .pass loop cs => r.pass loop cs

/-- The actions in turn, with what each one did. -/
def run : Rig → List Action → Rig × List Report
  | r, [] => (r, [])
  | r, a :: as =>
    let (r, report) := r.act a
    let (r, reports) := r.run as
    (r, report :: reports)

end Rig

end HotFire
