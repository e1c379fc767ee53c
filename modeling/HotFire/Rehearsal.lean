import HotFire.Stand
import HotFire.Worker

/-! A worker's endless loop, rehearsed on a scripted clock: every sleep costs one
of a budget, passes a share of the time asked for, and brings on the cues that
are due at that sleep. -/

namespace HotFire

inductive Cue where
  | byte (b : UInt8)
  | setShutoff (on : Bool)
  | inject (sensor : Sensor) (raw : UInt16)

inductive Role where
  | sequencer
  | sampling

inductive RehearsalEvent where
  | slept (length : Nat) (ignition shutoff : Bool)
  | byte (b : UInt8) (verdict : Except UnknownCommand Verdict)
  | setShutoff (on : Bool)
  | inject (sensor : Sensor) (raw : UInt16)
  | pin (write : PinWrite)
  | sample (event : SampleEvent)

/-- `script` pairs cues with the count of sleeps that brings them on; `trace`
and `notices` are newest first. -/
structure Rehearsal where
  rig : Rig
  converter : SimulatedConverter
  divisor : Nat
  script : List (Nat × Cue)
  now : Nat := 0
  sleeps : Nat := 0
  trace : List RehearsalEvent := []
  notices : List Notice := []

namespace Rehearsal

def tell (r : Rehearsal) (ns : List Notice) : Rehearsal :=
  { r with notices := ns.reverse ++ r.notices }

def record (r : Rehearsal) (es : List RehearsalEvent) : Rehearsal :=
  { r with trace := es.reverse ++ r.trace }

def act (r : Rehearsal) (a : Action) : Rehearsal :=
  let (rig, report) := r.rig.act a
  let events := report.writes.map RehearsalEvent.pin ++ report.samples.map RehearsalEvent.sample
  ({ r with rig }.record events).tell report.notices

def cue (r : Rehearsal) : Cue → Rehearsal
  | .byte b =>
    let h := handleByte r.rig.profile b r.rig.flags
    ({ r with rig := { r.rig with flags := h.flags } }.record
      (h.writes.map RehearsalEvent.pin ++ [RehearsalEvent.byte b h.verdict])).tell h.notices
  | .setShutoff on => (r.act (.setShutoff on)).record [.setShutoff on]
  | .inject sensor raw =>
    { r with converter := r.converter.set sensor raw }.record [.inject sensor raw]

/-- The cues due at the present count of sleeps, in the order of the script. -/
def cues (r : Rehearsal) : Rehearsal :=
  (r.script.filter (·.1 == r.sleeps)).foldl (fun r c => r.cue c.2) r

def sleep (r : Rehearsal) (length : Nat) : Rehearsal :=
  let r := r.record [.slept length r.rig.flags.ignition r.rig.flags.shutoff]
  { r with now := r.now + shortSleep r.divisor length, sleeps := r.sleeps + 1 }.cues

/-- What the loop does between two sleeps. A sequencer that has just ended a burn
steps on at once. -/
def work (r : Rehearsal) : Role → Rehearsal
  | .sequencer =>
    let r := r.act (.step r.now)
    if r.rig.sequencer.state == .ending then r.act (.step r.now) else r
  | .sampling =>
    match r.rig.loops[0]? with
    | none => r
    | some l =>
      let (raws, converter) := r.converter.readAll (l.slots.map (·.spec.sensor))
      let conversions := raws.map fun raw => { raw, time := r.now }
      { r with converter }.act (.pass 0 conversions)

def period (r : Rehearsal) : Role → Nat
  | .sequencer => r.rig.sequencer.machine.context.timing.poll
  | .sampling =>
    match r.rig.loops[0]? with
    | none => 0
    | some l => l.period

/-- Runs the loop until its sleeps are used up. A loop without a period would
spin and never sleep, so it stops. -/
def loop (role : Role) : (budget deadline : Nat) → Rehearsal → Rehearsal
  | 0, _, r => r
  | budget + 1, deadline, r =>
    let due := deadline ≤ r.now
    let deadline := if due then r.now + r.period role else deadline
    let r := if due then r.work role else r
    match remaining? deadline r.now with
    | none => r
    | some length => loop role budget deadline (r.sleep length)

def opening (r : Rehearsal) : Role → List Notice
  | .sequencer => [.sequencerReady r.rig.profile.kind (r.period .sequencer)]
  | .sampling =>
    match r.rig.loops[0]? with
    | none => []
    | some l => [l.runningNotice]

def workerName (r : Rehearsal) : Role → String
  | .sequencer => Sequencer.threadName
  | .sampling =>
    match r.rig.loops[0]? with
    | none => ""
    | some l => l.name

/-- Everything in place for a worker: cues at count zero come before anything is
built, and `built` is what building tells the log. -/
def prepare (rig : Rig) (built : List Notice) (converter : SimulatedConverter) (divisor : Nat)
    (script : List (Nat × Cue)) : Rehearsal :=
  ({ rig, converter, divisor, script } : Rehearsal).cues.tell built

/-- Runs the worker's loop, spawned or not. The sequencer works first, a sampling
loop sleeps first. -/
def run (r : Rehearsal) (role : Role) (spawned : Bool) (budget : Nat) : Rehearsal :=
  let spawning := if spawned then [(Worker.mk (r.workerName role) 64).spawnedNotice] else []
  let r := r.tell (spawning ++ r.opening role)
  let deadline := match role with
    | .sequencer => r.now
    | .sampling => r.now + r.period .sampling
  r.loop role (max budget 1) deadline

end Rehearsal

end HotFire
