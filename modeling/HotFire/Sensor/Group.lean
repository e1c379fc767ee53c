import HotFire.Notice

/-! Groups of sensors that one worker reads at one rate. -/

namespace HotFire

structure SensorGroup where
  name : String
  hz : Nat
  sensors : List SensorSpec

namespace SensorGroup

def maxSensors : Nat := 8

/-- Sensors past the eighth are left out, which `notices` reports. -/
def ofSpecs (name : String) (hz : Nat) (specs : List SensorSpec) : SensorGroup :=
  ⟨name, hz, specs.take maxSensors⟩

def notices (name : String) (specs : List SensorSpec) : List Notice :=
  if maxSensors < specs.length then
    [.groupTooLarge name ((specs.drop maxSensors).map SensorSpec.sensor)]
  else []

/-- Nanoseconds between two passes; a rate of zero counts as one. -/
def period (g : SensorGroup) : Nat := 1000000000 / max g.hz 1

end SensorGroup

end HotFire
