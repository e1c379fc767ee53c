import HotFire.Engine.Phases

/-! The ignition sequencer: one step looks at the clock and the shared flags,
lets the machine decide, and carries out what it decided. -/

namespace HotFire

inductive StepEffect where
  | write (pin : Pin) (level : Level)
  | clearIgnition
  deriving DecidableEq, Repr

def StepEffect.write? : StepEffect → Option PinWrite
  | .write pin level => some (pin, level)
  | .clearIgnition => none

def StepEffect.apply (f : SafetyFlags) : StepEffect → SafetyFlags
  | .write _ _ => f
  | .clearIgnition => f.clearIgnition.2

structure Sequencer where
  machine : BurnMachine
  burns : UInt32
  lastOutcome : Option BurnOutcome

structure Stepped where
  sequencer : Sequencer
  effects : List StepEffect
  notices : List Notice

namespace Sequencer

def threadName : String := "Ignition Sequencer"

def state (s : Sequencer) : BurnState := s.machine.state

/-- A sequencer that has just entered its idle state, and what that told the
log. -/
def start (profile : EngineProfile) (timing : BurnTiming) : Sequencer × List Notice :=
  let machine := BurnMachine.start ⟨.idle, .fresh profile timing⟩
  (⟨{ machine with context := { machine.context with notices := [] } }, 0, none⟩,
    machine.context.notices)

def observe (s : Sequencer) (now : Nat) (f : SafetyFlags) : BurnMachine :=
  { s.machine with
    context := { s.machine.context with now, ignition := f.ignition, shutoff := f.shutoff } }

/-- The writes of the machine's context, then the end of the request if the
burn is over. -/
def effectsOf (c : BurnContext) : List StepEffect :=
  c.writes.map (fun w => .write w.1 w.2) ++ if c.clearIgnition then [.clearIgnition] else []

/-- The context once its effects are carried out. -/
def settled (c : BurnContext) : BurnContext :=
  { c with writes := [], clearIgnition := false, notices := [] }

def step (s : Sequencer) (now : Nat) (f : SafetyFlags) : Stepped :=
  let m := (s.observe now f).tick
  let ignited := s.state == .idle && m.state == .igniting
  { sequencer :=
      { machine := { m with context := settled m.context }
        burns := if ignited then s.burns + 1 else s.burns
        lastOutcome := if m.state == .ending then m.context.outcome else s.lastOutcome }
    effects := effectsOf m.context
    notices := m.context.notices }

end Sequencer

namespace Stepped

def writes (r : Stepped) : List PinWrite := r.effects.filterMap StepEffect.write?

def flags (r : Stepped) (f : SafetyFlags) : SafetyFlags := r.effects.foldl StepEffect.apply f

end Stepped

end HotFire
