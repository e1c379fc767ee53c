import HotFire.Engine.Profile
import HotFire.Notice

/-! The GITVC valve during hotflow: a plan of pulses played against the clock.
Every edge has a deadline fixed by the plan alone, so a late poll delays its own
edge and none of those after it. -/

namespace HotFire

/-- The valve is open at low. -/
def gitvcOn : Level := .low
def gitvcOff : Level := .high

inductive PulsePhase where
  | waiting
  | on (pulse : Nat)
  | off (next : Nat)
  | done
  deriving DecidableEq, Repr

/-- What making a plan tells the log: whether pulses were left out. -/
def GitvcPlan.notices (pulses : List Nat) : List Notice :=
  if maxPulses < pulses.length then [.planTruncated] else []

/-- A plan under way; `deadline` is when the next edge falls due. -/
structure PulseTrain where
  plan : GitvcPlan
  phase : PulsePhase
  deadline : Nat
  deriving DecidableEq, Repr

namespace PulseTrain

def start? (plan : GitvcPlan) (now : Nat) : Option PulseTrain :=
  if plan.pulses.isEmpty then none else some ⟨plan, .waiting, now + plan.wait⟩

def isDone (t : PulseTrain) : Bool := t.phase == .done

def pulsesStarted (t : PulseTrain) : Nat :=
  match t.phase with
  | .waiting => 0
  | .on i => i + 1
  | .off next => next
  | .done => t.plan.pulses.length

def width (t : PulseTrain) (pulse : Nat) : Nat := t.plan.pulses.getD pulse 0

def openPulse (t : PulseTrain) (pulse : Nat) : PulseTrain :=
  { t with phase := .on pulse, deadline := t.deadline + t.width pulse }

def closePulse (t : PulseTrain) (pulse : Nat) : PulseTrain :=
  if pulse + 1 < t.plan.pulses.length then
    { t with phase := .off (pulse + 1), deadline := t.deadline + t.plan.between }
  else { t with phase := .done }

/-- The pulse that the next edge opens, if it opens one. -/
def opens? (t : PulseTrain) : Option Nat :=
  match t.phase with
  | .waiting => some 0
  | .off next => some next
  | .on _ | .done => none

/-- One look at the clock: at most one edge, however late the look is. -/
def poll (t : PulseTrain) (now : Nat) : PulseTrain × Option PinWrite :=
  if now < t.deadline then (t, none)
  else match t.phase with
    | .done => (t, none)
    | .waiting => (t.openPulse 0, some (Pin.gitvcValve, gitvcOn))
    | .off next => (t.openPulse next, some (Pin.gitvcValve, gitvcOn))
    | .on pulse => (t.closePulse pulse, some (Pin.gitvcValve, gitvcOff))

def pollNotices (t : PulseTrain) (now : Nat) : List Notice :=
  if now < t.deadline then []
  else match t.opens? with
    | some i => [.pulse (i + 1) (t.width i)]
    | none => []

end PulseTrain

end HotFire
