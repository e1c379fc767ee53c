import HotFire.Safety

/-! The pressure guard: a running average per guarded sensor, and the shutoff that
is set while any of them is out of bounds. -/

namespace HotFire

/-- How much of an average its next value keeps, and how much a reading adds. -/
def averageRetain : Float := 0.95
def averageWeight : Float := 0.05

/-- Applies `f` to the first item that satisfies `p`. -/
def modifyFirst {α : Type} (p : α → Bool) (f : α → α) : List α → List α
  | [] => []
  | x :: xs => if p x then f x :: xs else x :: modifyFirst p f xs

structure GuardChannel where
  sensor : Sensor
  limits : PressureLimits
  average : Float
  outside : Bool

namespace GuardChannel

def start (sensor : Sensor) (limits : PressureLimits) : GuardChannel :=
  ⟨sensor, limits, limits.nominal, false⟩

def blend (c : GuardChannel) (raw : UInt16) : Float :=
  c.average * averageRetain + c.limits.calibrate raw * averageWeight

def fold (c : GuardChannel) (raw : UInt16) : GuardChannel :=
  { c with average := c.blend raw, outside := !c.limits.inBounds (c.blend raw) }

/-- Every reading is traced; leaving and re-entering the window is told once. -/
def foldNotices (c : GuardChannel) (raw : UInt16) : List Notice :=
  let next := c.fold raw
  .averaged c.sensor raw (c.limits.calibrate raw) next.average ::
    match c.outside, next.outside with
    | false, true => [.averageOutside c.sensor next.average c.limits.min c.limits.max]
    | true, false => [.averageBack c.sensor next.average]
    | _, _ => []

end GuardChannel

structure PressureGuard where
  channels : List GuardChannel

/-- What one update of a guard leaves; `average` is none for a sensor that it
does not guard. -/
structure Guarded where
  guard : PressureGuard
  flags : SafetyFlags
  average : Option Float
  notices : List Notice

namespace PressureGuard

/-- A channel for each of the first eight specs that carry limits; no guard if
none does. -/
def ofSpecs? (specs : List SensorSpec) : Option PressureGuard :=
  let channels := (specs.filterMap fun s => s.limits.map (GuardChannel.start s.sensor)).take 8
  if channels.isEmpty then none else some ⟨channels⟩

def channel? (g : PressureGuard) (s : Sensor) : Option GuardChannel :=
  g.channels.find? (·.sensor == s)

def guards (g : PressureGuard) (s : Sensor) : Bool := (g.channel? s).isSome

def average? (g : PressureGuard) (s : Sensor) : Option Float := (g.channel? s).map (·.average)

def shutoff (g : PressureGuard) : Bool := g.channels.any (·.outside)

/-- Takes a reading into its sensor's average and sets the shared shutoff to
what the guard now says. -/
def update (g : PressureGuard) (s : Sensor) (raw : UInt16) (f : SafetyFlags) : Guarded :=
  match g.channel? s with
  | none => ⟨g, f, none, []⟩
  | some c =>
    let g' : PressureGuard := ⟨modifyFirst (·.sensor == s) (·.fold raw) g.channels⟩
    { guard := g'
      flags := f.setShutoff g'.shutoff
      average := some (c.blend raw)
      notices := c.foldNotices raw ++ f.shutoffNotices g'.shutoff }

end PressureGuard

end HotFire
