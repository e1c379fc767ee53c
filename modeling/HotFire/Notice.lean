import HotFire.Command
import HotFire.Fault
import HotFire.Decimal.Fixed
import HotFire.Engine.Burn
import HotFire.Engine.Profile
import HotFire.Sensor.Basic
import HotFire.Text.Span

/-! What the program tells its log. A notice is a fact; its severity, its channel
and its wording are functions of it. -/

namespace HotFire

inductive Severity where
  | error
  | warn
  | info
  | debug
  | trace
  deriving DecidableEq, Repr

namespace Severity

def rank : Severity → Nat
  | .error => 1
  | .warn => 2
  | .info => 3
  | .debug => 4
  | .trace => 5

def name : Severity → String
  | .error => "ERROR"
  | .warn => "WARN"
  | .info => "INFO"
  | .debug => "DEBUG"
  | .trace => "TRACE"

end Severity

inductive Notice where
  -- commands
  | commandTaken (command : Command)
  | commandUnknown (cause : UnknownCommand)
  | commandUnavailable (command : Command) (engine : EngineKind)
  | driverMissing (channel : UInt8)
  | titanPreset (label : String)
  | lunaPreset (label : String) (pin : Pin)
  | burnInFlight
  | ignitionRequested
  | ignitionStopped
  | commandReadFailed (detail : String)
  -- pressure
  | shutoffSet
  | shutoffCleared
  | averaged (sensor : Sensor) (raw : UInt16) (calibrated average : Float)
  | averageOutside (sensor : Sensor) (average min max : Float)
  | averageBack (sensor : Sensor) (average : Float)
  | limitsMissing (key : String)
  -- burns
  | sequencerStarting (state : BurnState)
  | sequencerReady (engine : EngineKind) (poll : Nat)
  | transition (source target : BurnState)
  | idle
  | igniting (pin : Pin) (preignite : Nat)
  | valvesOpen (engine : EngineKind) (elapsed : Nat)
  | trainStarting (pulses wait : Nat)
  | pulse (number width : Nat)
  | burnEnded (outcome : BurnOutcome) (elapsed : Nat)
  | writeDropped (pin : Pin) (level : Level)
  | planTruncated
  -- sampling and telemetry
  | groupTooLarge (group : String) (dropped : List Sensor)
  | sampling (group : String) (sensors period : Nat)
  | sampled (sensor : Sensor) (raw : UInt16) (timestamp : UInt64)
  | frameSent (label : String) (bytes : Nat)
  | frameDropped (label : String) (cause : LinkFault)
  | workerSpawned (name : String) (stackKb : Nat)
  -- the board
  | converterMissing (chipSelect : Pin)
  | conversionFailed (chipSelect : Pin) (channel : UInt8)
  | pinUnmapped (pin : Pin) (level : Level)
  | pinWriteFailed (pin : Pin) (level : Level)
  | safeDefaultsApplied (engine : EngineKind)
  | simulatedPinMissing (pin : Pin)
  | simulatedWrite (pin : Pin) (level : Level)

namespace Notice

def severity : Notice → Severity
  | shutoffSet | burnEnded .pressureShutoff _ => .error
  | commandUnknown _ | commandUnavailable _ _ | driverMissing _ | burnInFlight
  | ignitionStopped | commandReadFailed _ | averageOutside _ _ _ _ | limitsMissing _
  | burnEnded .aborted _ | writeDropped _ _ | planTruncated | groupTooLarge _ _
  | frameDropped _ _ | converterMissing _ | conversionFailed _ _ | pinUnmapped _ _
  | pinWriteFailed _ _ | simulatedPinMissing _ => .warn
  | commandTaken _ | titanPreset _ | lunaPreset _ _ | ignitionRequested | shutoffCleared
  | averageBack _ _ | sequencerReady _ _ | igniting _ _ | valvesOpen _ _
  | trainStarting _ _ | burnEnded .completed _ | workerSpawned _ _
  | simulatedWrite _ _ => .info
  | sequencerStarting _ | transition _ _ | idle | pulse _ _ | sampling _ _ _
  | frameSent _ _ | safeDefaultsApplied _ => .debug
  | averaged _ _ _ _ | sampled _ _ _ => .trace

/-- Whether the notice goes to the telemetry channel of the log. -/
def isTelemetry : Notice → Bool
  | sampled _ _ _ | frameSent _ _ | frameDropped _ _ => true
  | _ => false

def text : Notice → String
  | commandTaken c => s!"Command {c.name} ({c.opcode.toNat})"
  | commandUnknown cause => s!"Ignoring {cause.message}"
  | commandUnavailable c engine => s!"{c.name} is not available on the {engine.name} profile"
  | driverMissing k => s!"No driver {k.toNat}"
  | titanPreset label => s!"Titan preset: {label}"
  | lunaPreset label pin => s!"Luna: {label} (pin {pin})"
  | burnInFlight => "Burn already in flight, START_IGNITION ignored"
  | ignitionRequested => "Ignition requested"
  | ignitionStopped => "Ignition stopped by operator"
  | commandReadFailed detail => s!"Command read failed: {detail}"
  | shutoffSet => "PRESSURE SHUTOFF SET"
  | shutoffCleared => "Pressure returned to nominal"
  | averaged s raw calibrated average =>
    s!"{s.name} raw {raw.toNat} -> {oneDecimal calibrated}, avg {oneDecimal average}"
  | averageOutside s average low high =>
    s!"{s.name} running average {oneDecimal average} outside [{oneDecimal low}, {oneDecimal high}]"
  | averageBack s average => s!"{s.name} running average {oneDecimal average} back in bounds"
  | limitsMissing key => s!"Pressure.{key} missing; using default shutoff limits"
  | sequencerStarting state => s!"Sequencer starting in state: {state.name}"
  | sequencerReady engine poll =>
    s!"Ignition sequencer ready ({engine.name}), polling every {Span.text poll}"
  | transition source target => s!"Sequencer transition: {source.name} -> {target.name}"
  | idle => "IDLE: waiting for ignition"
  | igniting pin preignite =>
    s!"IGNITING: igniter on (pin {pin}), main valve in {Span.text preignite}"
  | valvesOpen engine elapsed =>
    s!"MAIN_VALVE_OPEN: {engine.name} burn valves set at {Span.text elapsed}"
  | trainStarting pulses wait => s!"GITVC: {pulses} pulses starting after {Span.text wait}"
  | pulse number width => s!"GITVC pulse {number} for {Span.text width}"
  | burnEnded .completed elapsed => s!"ENDING: burn complete after {Span.text elapsed}"
  | burnEnded .aborted elapsed => s!"ENDING: burn aborted by operator after {Span.text elapsed}"
  | burnEnded .pressureShutoff elapsed =>
    s!"ENDING: pressure shutoff after {Span.text elapsed}, main valve closed"
  | writeDropped pin level =>
    s!"Sequencer write queue full, dropping pin {pin} -> {level.name}"
  | planTruncated => s!"GITVC plan truncated to {GitvcPlan.maxPulses} pulses"
  | groupTooLarge group dropped =>
    let names := ", ".intercalate (dropped.map Sensor.name)
    s!"{group} group holds at most 8 sensors; dropping {names}"
  | sampling group sensors period =>
    s!"{group}: sampling {sensors} sensors every {Span.text period}"
  | sampled s raw timestamp => s!"{s.name} raw={raw.toNat} t={timestamp.toNat}"
  | frameSent label bytes => s!"{label}: sent {bytes} bytes"
  | frameDropped label cause => s!"{label}: frame dropped: {cause.message}"
  | workerSpawned name stackKb => s!"Spawning '{name}' (stack={stackKb}KB)"
  | converterMissing cs => s!"No ADC on chip select GPIO{cs}"
  | conversionFailed cs channel => s!"ADC GPIO{cs} ch{channel.toNat} transfer failed: Other"
  | pinUnmapped pin level => s!"GPIO{pin} is not mapped, write of {level.name} dropped"
  | pinWriteFailed pin level => s!"GPIO{pin} write {level.name} failed: Other"
  | safeDefaultsApplied engine => s!"GPIO safe defaults applied for {engine.name}"
  | simulatedPinMissing pin => s!"SIM GPIO{pin} out of range"
  | simulatedWrite pin level => s!"SIM GPIO{pin} <- {level.name}"

/-- The notice as one line of the log. -/
def line (n : Notice) : String :=
  let channel := if n.isTelemetry then "[telemetry]" else ""
  s!"{n.severity.name}{channel} {n.text}"

/-- The lines of a log that records nothing less severe than `limit`. -/
def lines (limit : Severity) (ns : List Notice) : List String :=
  (ns.filter (fun n => n.severity.rank ≤ limit.rank)).map line

end Notice

end HotFire
