import HotFire.Config.Basic
import HotFire.Config.Tree

/-! The configuration of a stand from a tree of settings: which are required, which
have a default, and the range of each. -/

namespace HotFire

abbrev Reader (α : Type) := ConfigTree → String → String → Except ConfigError α

namespace Reader

/-- A number as one of a smaller type; one that does not fit is blamed on its key. -/
def fit {α : Type} (narrow : Int → Option α) (table key : String) (n : Int) :
    Except ConfigError α :=
  match narrow n with
  | some a => .ok a
  | none => .error (.invalidValue table key s!"{n}")

def narrowed {α : Type} (narrow : Int → Option α) : Reader α := fun t table key => do
  fit narrow table key (← t.int table key)

def uint16? (n : Int) : Option UInt16 :=
  if 0 ≤ n && n < UInt16.size then some (UInt16.ofNat n.toNat) else none

def uint32? (n : Int) : Option UInt32 :=
  if 0 ≤ n && n < UInt32.size then some (UInt32.ofNat n.toNat) else none

def uint64? (n : Int) : Option UInt64 :=
  if 0 ≤ n && n < UInt64.size then some (UInt64.ofNat n.toNat) else none

def port : Reader UInt16 := narrowed uint16?
def millis : Reader UInt64 := narrowed uint64?
def count : Reader UInt32 := narrowed uint32?

def counts : Reader (List UInt32) := fun t table key => do
  (← t.vector table key).mapM (fit uint32? table key)

def engineKind : Reader EngineKind := fun t table key => do
  let name ← t.string table key
  match EngineKind.ofText? name with
  | some kind => .ok kind
  | none => .error (.invalidValue table key name)

/-- A key that may be missing; one that is there has to be readable. -/
def optional {α : Type} (absent : α) (read : Reader α) : Reader α := fun t table key =>
  if t.isPresent table key then read t table key else .ok absent

end Reader

def NetworkConfig.ofTree (t : ConfigTree) : Except ConfigError NetworkConfig := do
  let fallback := StandConfig.standard.network
  let address ← t.string "Network" "address"
  let port ← Reader.port t "Network" "port"
  let listenAddress ← Reader.optional fallback.listenAddress ConfigTree.string t
    "Network" "listen_address"
  let commandPort ← Reader.optional fallback.commandPort Reader.port t "Network" "command_port"
  return { address, port, listenAddress, commandPort }

def EngineKind.ofTree (t : ConfigTree) : Except ConfigError EngineKind :=
  Reader.engineKind t "Main" "engine_type"

def ScheduleConfig.ofTree (t : ConfigTree) : Except ConfigError ScheduleConfig := do
  let fallback := StandConfig.standard.schedule
  let preigniteMs ← Reader.millis t "Worker" "preignite_ms"
  let hotflowMs ← Reader.millis t "Worker" "hotflow_ms"
  let pollMs ← Reader.optional fallback.pollMs Reader.millis t "Worker" "poll_ms"
  return { preigniteMs, hotflowMs, pollMs }

/-- The four numbers of the shutoff, all of them required. -/
def PressureLimits.ofTree (t : ConfigTree) : Except ConfigError PressureLimits := do
  let max ← t.double "Pressure" "pressure_max"
  let min ← t.double "Pressure" "pressure_min"
  let slope ← t.double "Pressure" "slope"
  let intercept ← t.double "Pressure" "yint"
  return { PressureLimits.standard with max, min, slope, intercept }

/-- The key for want of which all four numbers of the shutoff are the standard ones. -/
def PressureLimits.missing? (t : ConfigTree) : Option String :=
  match PressureLimits.ofTree t with
  | .error (.keyNotFound _ key) => some key
  | _ => none

/-- The standard numbers stand in for all four where one is missing. -/
def PressureLimits.ofTreeOrStandard (t : ConfigTree) : Except ConfigError PressureLimits :=
  match PressureLimits.ofTree t with
  | .error (.keyNotFound _ _) => .ok StandConfig.standard.pressure.limits
  | limits => limits

def PressureConfig.ofTree (t : ConfigTree) : Except ConfigError PressureConfig := do
  let fallback := StandConfig.standard.pressure
  let limits ← PressureLimits.ofTreeOrStandard t
  let nominal ← Reader.optional limits.nominal ConfigTree.double t "Pressure" "nominal"
  let shutoffArmMs ← Reader.optional fallback.shutoffArmMs Reader.millis t
    "Pressure" "pressureshutoff_ms"
  let shutoffEnabled ← Reader.optional fallback.shutoffEnabled ConfigTree.bool t
    "Pressure" "shutoff_enabled"
  return { limits := { limits with nominal }, shutoffArmMs, shutoffEnabled }

def SamplingConfig.ofTree (t : ConfigTree) : Except ConfigError SamplingConfig := do
  let fallback := StandConfig.standard.sampling
  let loadCellHz ← Reader.optional fallback.loadCellHz Reader.count t "Sampling" "lc_hz"
  let pressureHz ← Reader.optional fallback.pressureHz Reader.count t "Sampling" "pt_hz"
  let thermocoupleHz ← Reader.optional fallback.thermocoupleHz Reader.count t "Sampling" "tc_hz"
  return { loadCellHz, pressureHz, thermocoupleHz }

def GitvcConfig.ofTree (t : ConfigTree) : Except ConfigError GitvcConfig := do
  let fallback := StandConfig.standard.gitvc
  let enabled ← Reader.optional fallback.enabled ConfigTree.bool t "Luna" "use_gitvc"
  let pulsesMs ← Reader.optional fallback.pulsesMs Reader.counts t "Luna" "gitvc_times_ms"
  let waitMs ← Reader.optional fallback.waitMs Reader.count t "Luna" "gitvc_wait_ms"
  let betweenMs ← Reader.optional fallback.betweenMs Reader.count t
    "Luna" "time_between_gitvc_ms"
  return { enabled, pulsesMs, waitMs, betweenMs }

namespace StandConfig

/-- The configuration in a tree, or the first thing that is wrong with it. -/
def ofTree (t : ConfigTree) : Except ConfigError StandConfig := do
  let network ← NetworkConfig.ofTree t
  let engine ← EngineKind.ofTree t
  let schedule ← ScheduleConfig.ofTree t
  let pressure ← PressureConfig.ofTree t
  let sampling ← SamplingConfig.ofTree t
  let gitvc ← GitvcConfig.ofTree t
  let config := { network, engine, schedule, pressure, sampling, gitvc }
  config.validate
  return config

/-- What reading a tree tells the log. The limits come after the engine's schedule. -/
def readingNotices (t : ConfigTree) : List Notice :=
  match NetworkConfig.ofTree t, EngineKind.ofTree t, ScheduleConfig.ofTree t with
  | .ok _, .ok _, .ok _ => (PressureLimits.missing? t).toList.map .limitsMissing
  | _, _, _ => []

def ofText (text : String) : Except ConfigError StandConfig := do
  ofTree (← ConfigTree.ofText text)

def textNotices (text : String) : List Notice :=
  match ConfigTree.ofText text with
  | .ok t => readingNotices t
  | .error _ => []

end StandConfig

end HotFire
