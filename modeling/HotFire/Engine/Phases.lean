import HotFire.Engine.Context

/-! What each state of the ignition sequence does: on the way in, on the way out,
and at every poll between. -/

namespace HotFire

/-- One state of the sequence. `update` names the state to go to, if any. -/
structure Phase where
  enter : Option (BurnContext → BurnContext)
  exit : Option (BurnContext → BurnContext)
  update : BurnContext → BurnContext × Option BurnState

namespace Idle

def enter (c : BurnContext) : BurnContext := c.note .idle

def update (c : BurnContext) : BurnContext × Option BurnState :=
  (c, if c.ignition then some .igniting else none)

end Idle

namespace Igniting

def enter (c : BurnContext) : BurnContext :=
  let c := { c with t0 := c.now, outcome := none }
  (c.write (Pin.igniter, .high)).note (.igniting Pin.igniter c.timing.preignite)

def update (c : BurnContext) : BurnContext × Option BurnState :=
  match c.abortReason with
  | some reason => ({ c with outcome := some reason }, some .ending)
  | none => (c, if c.timing.preignite ≤ c.elapsed then some .mainValveOpen else none)

end Igniting

namespace MainValveOpen

/-- Starts the GITVC pulses that the profile plans, if any. -/
def startTrain (c : BurnContext) : BurnContext :=
  match c.profile.gitvc? with
  | none => c
  | some plan =>
    match PulseTrain.start? plan c.now with
    | none => { c with train := none }
    | some train =>
      { c with train := some train }.note (.trainStarting plan.pulses.length plan.wait)

def enter (c : BurnContext) : BurnContext :=
  startTrain ((c.writeAll c.profile.openLevels).note (.valvesOpen c.profile.kind c.elapsed))

/-- A train that is still there closes its valve, done or not. -/
def exit (c : BurnContext) : BurnContext :=
  match c.train with
  | none => c
  | some _ => { c with train := none }.write (Pin.gitvcValve, gitvcOff)

def pollTrain (c : BurnContext) : BurnContext :=
  match c.train with
  | none => c
  | some train =>
    let (next, edge) := train.poll c.now
    let c := { c with train := some next, notices := c.notices ++ train.pollNotices c.now }
    match edge with
    | none => c
    | some w => c.write w

def update (c : BurnContext) : BurnContext × Option BurnState :=
  match c.abortReason with
  | some reason => ({ c with outcome := some reason }, some .ending)
  | none =>
    if c.timing.hotflow ≤ c.elapsed then ({ c with outcome := some .completed }, some .ending)
    else (pollTrain c, none)

end MainValveOpen

namespace Ending

/-- A burn that ends without a reason counts as aborted. -/
def enter (c : BurnContext) : BurnContext :=
  let outcome := c.outcome.getD .aborted
  { c.writeAll c.profile.endLevels with clearIgnition := true, outcome := some outcome }.note
    (.burnEnded outcome c.elapsed)

def update (c : BurnContext) : BurnContext × Option BurnState := (c, some .idle)

end Ending

def BurnState.phase : BurnState → Phase
  | .idle => ⟨some Idle.enter, none, Idle.update⟩
  | .igniting => ⟨some Igniting.enter, none, Igniting.update⟩
  | .mainValveOpen => ⟨some MainValveOpen.enter, some MainValveOpen.exit, MainValveOpen.update⟩
  | .ending => ⟨some Ending.enter, none, Ending.update⟩

namespace Phase

def runEnter (p : Phase) (c : BurnContext) : BurnContext :=
  match p.enter with
  | some f => f c
  | none => c

def runExit (p : Phase) (c : BurnContext) : BurnContext :=
  match p.exit with
  | some f => f c
  | none => c

end Phase

structure BurnMachine where
  state : BurnState
  context : BurnContext

namespace BurnMachine

def start (m : BurnMachine) : BurnMachine :=
  { m with context := m.state.phase.runEnter (m.context.note (.sequencerStarting m.state)) }

def goTo (m : BurnMachine) (target : BurnState) : BurnMachine where
  state := target
  context := target.phase.runEnter (m.state.phase.runExit (m.context.note (.transition m.state target)))

/-- One poll: the state's update, and the transition it asks for. -/
def tick (m : BurnMachine) : BurnMachine :=
  let (context, next) := m.state.phase.update m.context
  let m := { m with context }
  match next with
  | none => m
  | some target => m.goTo target

end BurnMachine

end HotFire
