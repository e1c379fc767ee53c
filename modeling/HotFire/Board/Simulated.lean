import HotFire.Notice

/-! Stand-ins for the board: a converter that counts, and lines that remember
their level. -/

namespace HotFire

/-- The word of a sensor without an injected reading. No reading of sixteen bits
is as large. -/
def SimulatedConverter.unset : UInt32 := 0xFFFFFFFF

/-- One word for each sensor, by its number. Sensors without an injected reading
share one 16-bit counter. -/
structure SimulatedConverter where
  words : Vector UInt32 11 := Vector.replicate 11 SimulatedConverter.unset
  counter : UInt16 := 0

namespace SimulatedConverter

def store (c : SimulatedConverter) (s : Sensor) (word : UInt32) : SimulatedConverter :=
  { c with words := c.words.set s.id.toNat word s.id_lt }

def set (c : SimulatedConverter) (s : Sensor) (raw : UInt16) : SimulatedConverter :=
  c.store s raw.toUInt32

def clear (c : SimulatedConverter) (s : Sensor) : SimulatedConverter := c.store s unset

def inject (c : SimulatedConverter) (s : Sensor) : Option UInt16 → SimulatedConverter
  | some raw => c.set s raw
  | none => c.clear s

def word (c : SimulatedConverter) (s : Sensor) : UInt32 := c.words.get ⟨s.id.toNat, s.id_lt⟩

/-- A word that fits in sixteen bits is a reading. -/
def injected? (c : SimulatedConverter) (s : Sensor) : Option UInt16 :=
  if (c.word s).toNat < UInt16.size then some (c.word s).toUInt16 else none

/-- The injected reading, or the counter's lowest twelve bits, which count one
up. -/
def read (c : SimulatedConverter) (s : Sensor) : UInt16 × SimulatedConverter :=
  match c.injected? s with
  | some raw => (raw, c)
  | none => (c.counter &&& 0x0FFF, { c with counter := c.counter + 1 })

def readAll (c : SimulatedConverter) : List Sensor → List UInt16 × SimulatedConverter
  | [] => ([], c)
  | s :: ss =>
    let (raw, c) := c.read s
    let (raws, c) := c.readAll ss
    (raw :: raws, c)

end SimulatedConverter

/-- Lines by number; a line never written has no level. -/
structure SimulatedLines where
  levels : Vector (Option Level) 28 := Vector.replicate 28 none

namespace SimulatedLines

def count : Nat := 28

def level? (l : SimulatedLines) (pin : Pin) : Option Level := (l.levels[pin]?).join

def write (l : SimulatedLines) (w : PinWrite) : SimulatedLines × Notice :=
  if h : w.1 < 28 then (⟨l.levels.set w.1 (some w.2)⟩, .simulatedWrite w.1 w.2)
  else (l, .simulatedPinMissing w.1)

end SimulatedLines

end HotFire
