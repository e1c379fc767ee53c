import HotFire.Config.Error
import HotFire.Engine.Burn
import HotFire.Engine.PulseTrain
import HotFire.Sensor.Group
import HotFire.Text.Blank

/-! The configuration of a stand: its parts, their defaults, what makes it unfit to
run with, and what the rest of the program takes from it. -/

namespace HotFire

/-- The name of an engine in any case of letters, or its old number. -/
def EngineKind.ofText? (s : String) : Option EngineKind :=
  match String.ofList ((trimBlanks s.toList).map Char.toLower) with
  | "generic" | "2" => some .generic
  | "luna" | "0" => some .luna
  | "titan" | "1" => some .titan
  | _ => none

/-- Where frames go, and where commands are listened for. -/
structure NetworkConfig where
  address : String
  port : UInt16
  listenAddress : String
  commandPort : UInt16
  deriving DecidableEq, Repr

structure ScheduleConfig where
  preigniteMs : UInt64
  hotflowMs : UInt64
  pollMs : UInt64
  deriving DecidableEq, Repr

structure PressureConfig where
  limits : PressureLimits
  shutoffArmMs : UInt64
  shutoffEnabled : Bool

structure SamplingConfig where
  loadCellHz : UInt32
  pressureHz : UInt32
  thermocoupleHz : UInt32
  deriving DecidableEq, Repr

structure GitvcConfig where
  enabled : Bool
  pulsesMs : List UInt32
  waitMs : UInt32
  betweenMs : UInt32
  deriving DecidableEq, Repr

structure StandConfig where
  network : NetworkConfig
  engine : EngineKind
  schedule : ScheduleConfig
  pressure : PressureConfig
  sampling : SamplingConfig
  gitvc : GitvcConfig

def PressureLimits.standard : PressureLimits where
  slope := -0.3
  intercept := 1108.1
  min := 300
  max := 800
  nominal := 700

/-- All at zero, which is no plan to fly. -/
def GitvcConfig.blank : GitvcConfig := ⟨false, [], 0, 0⟩

namespace StandConfig

def standard : StandConfig where
  network := ⟨"127.0.0.1", 8080, "0.0.0.0", 1234⟩
  engine := .luna
  schedule := ⟨500, 3000, 50⟩
  pressure := ⟨.standard, 1000, true⟩
  sampling := ⟨2000, 500, 20⟩
  gitvc := { GitvcConfig.blank with betweenMs := 100 }

def maxHz : UInt32 := 1000000

def rates (c : StandConfig) : List UInt32 :=
  [c.sampling.loadCellHz, c.sampling.pressureHz, c.sampling.thermocoupleHz]

/-- The first reason not to run with `c`. Nothing is mended. -/
def flaw? (c : StandConfig) : Option Flaw :=
  let limits := c.pressure.limits
  if !(limits.min < limits.max) then some .boundsInverted
  else if !(limits.slope.isFinite && limits.intercept.isFinite && limits.nominal.isFinite) then
    some .calibrationNotFinite
  else if c.schedule.hotflowMs ≤ c.schedule.preigniteMs then some .hotflowTooShort
  else if c.schedule.pollMs == 0 then some .pollZero
  else if GitvcPlan.maxPulses < c.gitvc.pulsesMs.length then some .tooManyPulses
  else if c.rates.any (fun hz => hz == 0 || maxHz < hz) then some .rateOutOfRange
  else none

def validate (c : StandConfig) : Except ConfigError Unit :=
  match c.flaw? with
  | some flaw => .error (.flawed flaw)
  | none => .ok ()

/-- The engine, with its pulse plan if it has one and is to use it. -/
def profile (c : StandConfig) : EngineProfile :=
  match c.engine with
  | .generic => .generic
  | .titan => .titan
  | .luna =>
    .luna (if c.gitvc.enabled then
      some (.ofMillis (c.gitvc.pulsesMs.map UInt32.toNat) c.gitvc.waitMs.toNat
        c.gitvc.betweenMs.toNat)
    else none)

def profileNotices (c : StandConfig) : List Notice :=
  if c.engine = .luna ∧ c.gitvc.enabled then
    GitvcPlan.notices (c.gitvc.pulsesMs.map UInt32.toNat)
  else []

def timing (c : StandConfig) : BurnTiming where
  preignite := c.schedule.preigniteMs.toNat * nanosPerMilli
  hotflow := c.schedule.hotflowMs.toNat * nanosPerMilli
  shutoffArm := c.pressure.shutoffArmMs.toNat * nanosPerMilli
  poll := c.schedule.pollMs.toNat * nanosPerMilli

/-- One group for each kind of sensor. The first pressure transducer alone carries
limits. -/
def groups (c : StandConfig) : List SensorGroup := [
  .ofSpecs "Load Cell Thread" c.sampling.loadCellHz.toNat
    ([.lc1, .lc2, .lc3, .lc4].map .ofSensor),
  .ofSpecs "Pressure Transducer Thread" c.sampling.pressureHz.toNat
    ((SensorSpec.ofSensor .pt1).withLimits c.pressure.limits ::
      [.pt2, .pt3, .pt4].map .ofSensor),
  .ofSpecs "Thermocouple Thread" c.sampling.thermocoupleHz.toNat
    ([.tc1, .tc2, .tc3].map .ofSensor)]

end StandConfig

end HotFire
