import HotFire.Pins

/-! Operator commands and their one-byte opcodes. Even opcodes below 14 release
a driver channel, odd ones set it; the rest is a fixed table. -/

namespace HotFire

inductive Command where
  | setDriver (channel : UInt8)
  | unsetDriver (channel : UInt8)
  | stopIgnition
  | startIgnition
  | leakCheck
  | fill
  | fillIdle
  | restValves
  | tapeOn
  | tapeOff
  | setWater
  | unsetWater
  | setGitvc
  | unsetGitvc
  deriving DecidableEq, Repr

/-- The byte that ends an operator session, the digit zero. -/
def sessionEnd : UInt8 := 48

structure UnknownCommand where
  opcode : UInt8
  deriving DecidableEq, Repr

def UnknownCommand.message (e : UnknownCommand) : String :=
  s!"unknown command opcode {e.opcode.toNat}"

namespace Command

def driverOpcodes : Nat := Pin.drivers.length * 2

def ofOpcode (byte : UInt8) : Except UnknownCommand Command :=
  if byte.toNat < driverOpcodes then
    .ok (if byte % 2 == 0 then .unsetDriver (byte / 2) else .setDriver (byte / 2))
  else match byte.toNat with
    | 14 => .ok .stopIgnition
    | 15 => .ok .startIgnition
    | 16 => .ok .leakCheck
    | 17 => .ok .fill
    | 18 => .ok .fillIdle
    | 19 => .ok .restValves
    | 20 => .ok .tapeOn
    | 21 => .ok .tapeOff
    | 22 => .ok .setWater
    | 23 => .ok .unsetWater
    | 24 => .ok .setGitvc
    | 25 => .ok .unsetGitvc
    | _ => .error ⟨byte⟩

def opcode : Command → UInt8
  | .unsetDriver k => k * 2
  | .setDriver k => k * 2 + 1
  | .stopIgnition => 14
  | .startIgnition => 15
  | .leakCheck => 16
  | .fill => 17
  | .fillIdle => 18
  | .restValves => 19
  | .tapeOn => 20
  | .tapeOff => 21
  | .setWater => 22
  | .unsetWater => 23
  | .setGitvc => 24
  | .unsetGitvc => 25

/-- The name under which logs and operators know the command. -/
def name : Command → String
  | .setDriver _ => "SET_DRIVER"
  | .unsetDriver _ => "UNSET_DRIVER"
  | .stopIgnition => "STOP_IGNITION"
  | .startIgnition => "START_IGNITION"
  | .leakCheck => "LEAK_CHECK"
  | .fill => "FILL"
  | .fillIdle => "FILL_IDLE"
  | .restValves => "DEF"
  | .tapeOn => "TAPE_ON"
  | .tapeOff => "TAPE_OFF"
  | .setWater => "SET_WATER"
  | .unsetWater => "UNSET_WATER"
  | .setGitvc => "SET_GITVC"
  | .unsetGitvc => "UNSET_GITVC"

end Command

end HotFire
