import HotFire.Config.Basic
import HotFire.Json.Number
import HotFire.Json.Printer
import HotFire.Json.Reader

/-! The configuration of a stand as a JSON document, written and read. -/

namespace HotFire

namespace JsonValue

/-- The value of the one member named `name`. -/
def only? (members : List (Option String × JsonValue)) (name : String) : Option JsonValue :=
  match members.filter (·.1 == some name) with
  | [(_, v)] => some v
  | _ => none

/-- The values of a record's fields: the members of an object, in whatever order and
among whatever others, or the values of an array in the order of the fields. -/
def fields? (names : List String) : JsonValue → Option (List JsonValue)
  | object ms => if ms.all (·.1.isSome) then names.mapM (only? ms) else none
  | array vs => if vs.length = names.length then some vs else none
  | _ => none

def bool? : JsonValue → Option Bool
  | bool b => some b
  | _ => none

def string? : JsonValue → Option String
  | string s => s
  | _ => none

def natural? (bound : Nat) : JsonValue → Option Nat
  | number n => n.natural?.filter (· < bound)
  | _ => none

def uint16? (v : JsonValue) : Option UInt16 := (v.natural? UInt16.size).map UInt16.ofNat
def uint32? (v : JsonValue) : Option UInt32 := (v.natural? UInt32.size).map UInt32.ofNat
def uint64? (v : JsonValue) : Option UInt64 := (v.natural? UInt64.size).map UInt64.ofNat

def double? : JsonValue → Option Float
  | number n => n.double?
  | _ => none

def list? {α : Type} (read : JsonValue → Option α) : JsonValue → Option (List α)
  | array vs => vs.mapM read
  | _ => none

def ofNat (n : Nat) : JsonValue := number (.ofNat n)

/-- What is no number is written as `null`. -/
def ofFloat (x : Float) : JsonValue :=
  match JsonNumber.ofFloat? x with
  | some n => number n
  | none => null

def ofFields (names : List String) (values : List JsonValue) : JsonValue :=
  object ((names.map some).zip values)

end JsonValue

open JsonValue

namespace EngineKind

def documentName : EngineKind → String
  | .generic => "generic"
  | .luna => "luna"
  | .titan => "titan"

def toJson (k : EngineKind) : JsonValue := .string (some k.documentName)

def ofDocumentName? (name : String) : Option EngineKind :=
  [generic, luna, titan].find? (·.documentName == name)

/-- A name, alone or as the one member of an object with nothing in it. -/
def ofJson? : JsonValue → Option EngineKind
  | .string (some name) => ofDocumentName? name
  | .object [(some name, .null)] => ofDocumentName? name
  | _ => none

end EngineKind

namespace NetworkConfig

def names : List String := ["address", "port", "listen_address", "command_port"]

def toJson (c : NetworkConfig) : JsonValue :=
  ofFields names [.string (some c.address), ofNat c.port.toNat, .string (some c.listenAddress),
    ofNat c.commandPort.toNat]

def ofJson? (v : JsonValue) : Option NetworkConfig := do
  let [address, port, listen, command] ← fields? names v | none
  return ⟨← string? address, ← uint16? port, ← string? listen, ← uint16? command⟩

end NetworkConfig

namespace ScheduleConfig

def names : List String := ["preignite_ms", "hotflow_ms", "poll_ms"]

def toJson (c : ScheduleConfig) : JsonValue :=
  ofFields names [ofNat c.preigniteMs.toNat, ofNat c.hotflowMs.toNat, ofNat c.pollMs.toNat]

def ofJson? (v : JsonValue) : Option ScheduleConfig := do
  let [preignite, hotflow, poll] ← fields? names v | none
  return ⟨← uint64? preignite, ← uint64? hotflow, ← uint64? poll⟩

end ScheduleConfig

namespace PressureConfig

def names : List String :=
  ["pressure_max", "pressure_min", "slope", "yint", "nominal", "shutoff_arm_ms", "shutoff_enabled"]

def toJson (c : PressureConfig) : JsonValue :=
  ofFields names [ofFloat c.limits.max, ofFloat c.limits.min, ofFloat c.limits.slope,
    ofFloat c.limits.intercept, ofFloat c.limits.nominal, ofNat c.shutoffArmMs.toNat,
    .bool c.shutoffEnabled]

def ofJson? (v : JsonValue) : Option PressureConfig := do
  let [high, low, slope, intercept, nominal, arm, enabled] ← fields? names v | none
  let high ← double? high
  let low ← double? low
  let slope ← double? slope
  let intercept ← double? intercept
  let nominal ← double? nominal
  return ⟨⟨slope, intercept, low, high, nominal⟩, ← uint64? arm, ← bool? enabled⟩

end PressureConfig

namespace SamplingConfig

def names : List String := ["lc_hz", "pt_hz", "tc_hz"]

def toJson (c : SamplingConfig) : JsonValue :=
  ofFields names [ofNat c.loadCellHz.toNat, ofNat c.pressureHz.toNat, ofNat c.thermocoupleHz.toNat]

def ofJson? (v : JsonValue) : Option SamplingConfig := do
  let [loadCell, pressure, thermocouple] ← fields? names v | none
  return ⟨← uint32? loadCell, ← uint32? pressure, ← uint32? thermocouple⟩

end SamplingConfig

namespace GitvcConfig

def names : List String :=
  ["use_gitvc", "gitvc_times_ms", "gitvc_wait_ms", "time_between_gitvc_ms"]

def toJson (c : GitvcConfig) : JsonValue :=
  ofFields names [.bool c.enabled, .array (c.pulsesMs.map fun p => ofNat p.toNat),
    ofNat c.waitMs.toNat, ofNat c.betweenMs.toNat]

def ofJson? (v : JsonValue) : Option GitvcConfig := do
  let [enabled, pulses, wait, between] ← fields? names v | none
  return ⟨← bool? enabled, ← list? uint32? pulses, ← uint32? wait, ← uint32? between⟩

end GitvcConfig

namespace StandConfig

def names : List String := ["network", "engine", "worker", "pressure", "sampling", "luna"]

def toJson (c : StandConfig) : JsonValue :=
  ofFields names [c.network.toJson, c.engine.toJson, c.schedule.toJson, c.pressure.toJson,
    c.sampling.toJson, c.gitvc.toJson]

def ofJson? (v : JsonValue) : Option StandConfig := do
  let [network, engine, schedule, pressure, sampling, gitvc] ← fields? names v | none
  return ⟨← NetworkConfig.ofJson? network, ← EngineKind.ofJson? engine,
    ← ScheduleConfig.ofJson? schedule, ← PressureConfig.ofJson? pressure,
    ← SamplingConfig.ofJson? sampling, ← GitvcConfig.ofJson? gitvc⟩

def document (c : StandConfig) : String := c.toJson.text

/-- The configuration in a document. It need not be fit to run with. -/
def ofDocument? (text : String) : Option StandConfig :=
  (JsonValue.ofText? text).bind ofJson?

end StandConfig

end HotFire
