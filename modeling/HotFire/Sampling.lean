import HotFire.Clock.Manual
import HotFire.Sensor.Group
import HotFire.Sensor.PressureGuard
import HotFire.Telemetry.Framer

/-! A sampling loop: at every pass it reads each sensor of its group, keeps the
reading for telemetry, and lets the pressure guard see it. -/

namespace HotFire

/-- What one slot meets in a pass: the raw conversion, the time after it, and
what the link would answer to a frame now. -/
structure Conversion where
  raw : UInt16
  time : Nat
  link : Option LinkFault := none
  deriving DecidableEq, Repr

/-- A sensor of the group with the samples that wait for a frame. -/
structure SampleSlot where
  spec : SensorSpec
  buffer : SampleBuffer

/-- The counters of a loop. They wrap. -/
structure SamplingStats where
  cycles : UInt64 := 0
  framesSent : UInt64 := 0
  framesDropped : UInt64 := 0
  deriving DecidableEq, Repr

/-- A counter is read as the number it holds. -/
scoped instance counterCoe : Coe UInt64 Nat := ⟨UInt64.toNat⟩

/-- What a pass does outside the loop, in order. -/
inductive SampleEvent where
  | read (sensor : Sensor) (raw : UInt16)
  | frame (sensor : Sensor) (bytes : List UInt8) (link : Option LinkFault)
  deriving DecidableEq, Repr

structure SamplingLoop where
  name : String
  period : Nat
  slots : List SampleSlot
  guard : Option PressureGuard
  stats : SamplingStats

namespace SampleSlot

def ofSpec (spec : SensorSpec) : SampleSlot := ⟨spec, SampleBuffer.empty⟩

def item (c : Conversion) : Item := ⟨c.raw, saturateNanos c.time⟩

/-- Keeps a sample. A full buffer goes out as a frame first, which empties it. -/
def keep (slot : SampleSlot) (c : Conversion) : SampleSlot × Option (List UInt8) :=
  match slot.buffer.push (item c) with
  | (buffer, .ok) => ({ slot with buffer }, none)
  | (buffer, .full) =>
    let (frame, buffer) := Framer.standard.frame slot.spec.sensor.id buffer
    ({ slot with buffer := (buffer.push (item c)).1 }, some frame)

end SampleSlot

/-- A pass under way: what the slots before have left. -/
structure Pass where
  guard : Option PressureGuard
  flags : SafetyFlags
  stats : SamplingStats
  slots : List SampleSlot := []
  events : List SampleEvent := []
  notices : List Notice := []

namespace Pass

def watch (p : Pass) (s : Sensor) (raw : UInt16) : Pass :=
  match p.guard with
  | none => p
  | some g =>
    let r := g.update s raw p.flags
    { p with guard := some r.guard, flags := r.flags, notices := p.notices ++ r.notices }

def deliver (p : Pass) (s : Sensor) (frame : List UInt8) (link : Option LinkFault) : Pass :=
  let stats :=
    if link.isNone then { p.stats with framesSent := p.stats.framesSent + 1 }
    else { p.stats with framesDropped := p.stats.framesDropped + 1 }
  { p with
    stats
    events := p.events ++ [SampleEvent.frame s frame link]
    notices := p.notices ++ [Framer.transmitNotice s.name frame link] }

def sample (p : Pass) (slot : SampleSlot) (c : Conversion) : Pass :=
  let s := slot.spec.sensor
  let p := { p with events := p.events ++ [SampleEvent.read s c.raw] }
  let p := p.watch s c.raw
  let p := { p with notices := p.notices ++ [Notice.sampled s c.raw (saturateNanos c.time)] }
  match slot.keep c with
  | (slot, none) => { p with slots := p.slots ++ [slot] }
  | (slot, some frame) => { p.deliver s frame c.link with slots := p.slots ++ [slot] }

end Pass

structure Sampled where
  loop : SamplingLoop
  flags : SafetyFlags
  events : List SampleEvent
  notices : List Notice

namespace Sampled

/-- The frames handed to the link, sent or not. -/
def frames (r : Sampled) : List (List UInt8) :=
  r.events.filterMap fun
    | .frame _ bytes _ => some bytes
    | .read _ _ => none

end Sampled

namespace SamplingLoop

/-- A guard watches the group's pressures unless the shutoff is disabled. -/
def ofGroup (g : SensorGroup) (shutoffEnabled : Bool) : SamplingLoop where
  name := g.name
  period := g.period
  slots := g.sensors.map SampleSlot.ofSpec
  guard := if shutoffEnabled then PressureGuard.ofSpecs? g.sensors else none
  stats := {}

def buffered? (l : SamplingLoop) (s : Sensor) : Option Nat :=
  (l.slots.find? (·.spec.sensor == s)).map (·.buffer.length)

/-- One pass over the slots, with a conversion for each. -/
def pass (l : SamplingLoop) (cs : List Conversion) (f : SafetyFlags) : Sampled :=
  let start : Pass := { guard := l.guard, flags := f, stats := l.stats }
  let p := (l.slots.zip cs).foldl (fun p (slot, c) => p.sample slot c) start
  { loop :=
      { l with
        slots := p.slots ++ l.slots.drop cs.length
        guard := p.guard
        stats := { p.stats with cycles := p.stats.cycles + 1 } }
    flags := p.flags
    events := p.events
    notices := p.notices }

def runningNotice (l : SamplingLoop) : Notice := .sampling l.name l.slots.length l.period

/-- The times at which the slots of a pass read a clock. -/
def passTimes {σ : Type} (c : Clock σ) : Nat → σ → List Nat × σ
  | 0, s => ([], s)
  | n + 1, s =>
    let (times, s') := passTimes c n (c.look s)
    (c.time s :: times, s')

/-- The times of the next pass: the loop first sleeps for at least its
period. -/
def tickTimes {σ : Type} (l : SamplingLoop) (c : Clock σ) (s : σ) : Option (List Nat × σ) :=
  (c.sleepAtLeast l.period s).map fun (_, s') => passTimes c l.slots.length s'

end SamplingLoop

end HotFire
