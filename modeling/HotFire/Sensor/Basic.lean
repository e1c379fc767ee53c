import HotFire.Pins

/-! The eleven sensors of the stand, where each hangs on the converters, and
the pressure limits a sensor may carry. -/

namespace HotFire

inductive Sensor where
  | lc1 | lc2 | lc3 | lc4
  | pt1 | pt2 | pt3 | pt4
  | tc1 | tc2 | tc3
  deriving DecidableEq, Repr, Inhabited

inductive SensorKind where
  | loadCell
  | pressureTransducer
  | thermocouple
  deriving DecidableEq, Repr

/-- Where a conversion is read: a chip and one of its eight inputs. -/
structure ConverterInput where
  chipSelect : Pin
  channel : UInt8
  deriving DecidableEq, Repr

namespace Sensor

def all : List Sensor :=
  [.lc1, .lc2, .lc3, .lc4, .pt1, .pt2, .pt3, .pt4, .tc1, .tc2, .tc3]

def id : Sensor → UInt8
  | .lc1 => 0 | .lc2 => 1 | .lc3 => 2 | .lc4 => 3
  | .pt1 => 4 | .pt2 => 5 | .pt3 => 6 | .pt4 => 7
  | .tc1 => 8 | .tc2 => 9 | .tc3 => 10

theorem id_lt (s : Sensor) : s.id.toNat < 11 := by cases s <;> decide

def ofId? (n : Nat) : Option Sensor := all[n]?

def name : Sensor → String
  | .lc1 => "LC1" | .lc2 => "LC2" | .lc3 => "LC3" | .lc4 => "LC4"
  | .pt1 => "PT1" | .pt2 => "PT2" | .pt3 => "PT3" | .pt4 => "PT4"
  | .tc1 => "TC1" | .tc2 => "TC2" | .tc3 => "TC3"

def kind : Sensor → SensorKind
  | .lc1 | .lc2 | .lc3 | .lc4 => .loadCell
  | .pt1 | .pt2 | .pt3 | .pt4 => .pressureTransducer
  | .tc1 | .tc2 | .tc3 => .thermocouple

/-- The wiring of the stand. The pressure transducers count their converter's
inputs downwards. -/
def input : Sensor → ConverterInput
  | .lc1 => ⟨Pin.loadCellConverter, 0⟩
  | .lc2 => ⟨Pin.loadCellConverter, 1⟩
  | .lc3 => ⟨Pin.loadCellConverter, 2⟩
  | .lc4 => ⟨Pin.loadCellConverter, 3⟩
  | .pt1 => ⟨Pin.pressureConverter, 3⟩
  | .pt2 => ⟨Pin.pressureConverter, 2⟩
  | .pt3 => ⟨Pin.pressureConverter, 1⟩
  | .pt4 => ⟨Pin.pressureConverter, 0⟩
  | .tc1 => ⟨Pin.thermocoupleConverter, 4⟩
  | .tc2 => ⟨Pin.thermocoupleConverter, 5⟩
  | .tc3 => ⟨Pin.thermocoupleConverter, 6⟩

end Sensor

/-- A linear calibration, the bounds its running average has to keep, and the
value that average starts from. -/
structure PressureLimits where
  slope : Float
  intercept : Float
  min : Float
  max : Float
  nominal : Float

namespace PressureLimits

def calibrate (l : PressureLimits) (raw : UInt16) : Float :=
  l.slope * raw.toFloat + l.intercept

/-- Both bounds belong to the window, and no value that is not a number does. -/
def inBounds (l : PressureLimits) (value : Float) : Bool :=
  value >= l.min && value <= l.max

end PressureLimits

/-- A sensor as one sampling group reads it. -/
structure SensorSpec where
  sensor : Sensor
  input : ConverterInput
  limits : Option PressureLimits

namespace SensorSpec

def ofSensor (s : Sensor) : SensorSpec := ⟨s, s.input, none⟩

def withLimits (spec : SensorSpec) (l : PressureLimits) : SensorSpec :=
  { spec with limits := some l }

end SensorSpec

end HotFire
