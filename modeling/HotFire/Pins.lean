/-! Output lines of the test stand: the two levels of a line, and which relay,
valve or chip select hangs on which line. -/

namespace HotFire

inductive Level where
  | low
  | high
  deriving DecidableEq, Repr, Inhabited

def Level.name : Level → String
  | .low => "Low"
  | .high => "High"

/-- A line of the board, by its number. -/
abbrev Pin := Nat

abbrev PinWrite := Pin × Level

namespace Pin

/-- Chip selects of the three converters, active low. -/
def converter0 : Pin := 7
def converter1 : Pin := 8
def converter2 : Pin := 25

def loadCellConverter : Pin := converter2
def pressureConverter : Pin := converter1
def thermocoupleConverter : Pin := converter1

def chipSelects : List Pin := [converter0, converter1, converter2]

def valve1 : Pin := 17
def valve2 : Pin := 27
def valve3 : Pin := 23
def igniter : Pin := 22

/-- The first valve relay is the main valve on every engine; the plumbing of
the other two depends on the engine. -/
def mainValve : Pin := valve1

def waterValve : Pin := valve2
def gitvcValve : Pin := valve3

def ventValve : Pin := valve2
def tankValve : Pin := valve3
def heatingTape : Pin := 24

/-- Lines of the general relay channels, by channel number. -/
def drivers : List Pin := [5, 6, 12, 13, 19, 26, 16]

/-- Every line the board drives, chip selects apart. -/
def outputLines : List Pin :=
  [igniter, valve1, valve2, valve3, heatingTape] ++ drivers

end Pin

/-- The level that the last write to a line left it at. -/
def lastLevel (pin : Pin) (writes : List PinWrite) : Option Level :=
  (writes.reverse.find? (·.1 == pin)).map (·.2)

end HotFire
