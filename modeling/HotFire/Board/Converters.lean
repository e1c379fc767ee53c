import HotFire.Notice

/-! The bank of analog converters: one chip per chip select, three bytes out and
three bytes back for every conversion. -/

namespace HotFire

/-- What a failed conversion reads as; no conversion has more than twelve
bits. -/
def conversionFault : UInt16 := 0xFFFF

structure BusFrame where
  first : UInt8
  second : UInt8
  third : UInt8
  deriving DecidableEq, Repr

namespace BusFrame

def bytes (f : BusFrame) : List UInt8 := [f.first, f.second, f.third]

/-- Asks for a single-ended conversion of one of eight channels. -/
def request (channel : UInt8) : BusFrame := ⟨0x18 ||| (channel &&& 0x07), 0, 0⟩

/-- The twelve bits of a reply. -/
def conversion (reply : BusFrame) : UInt16 :=
  (((reply.second.toUInt16 <<< 8) ||| reply.third.toUInt16) >>> 2) &&& 0x0FFF

end BusFrame

/-- A chip as the bus sees it: the replies to come, a bus error among them being
none and the last one repeating, and the requests it has had, newest first. -/
structure ConverterChip where
  replies : List (Option BusFrame)
  requests : List BusFrame := []
  deriving DecidableEq, Repr

namespace ConverterChip

def transfer (c : ConverterChip) (request : BusFrame) : Option BusFrame × ConverterChip :=
  let c := { c with requests := request :: c.requests }
  match c.replies with
  | [] => (none, c)
  | [reply] => (reply, c)
  | reply :: rest => (reply, { c with replies := rest })

end ConverterChip

structure ConverterBank where
  chips : List (Pin × ConverterChip)

/-- One read of a bank. -/
structure BankRead where
  value : UInt16
  bank : ConverterBank
  requests : List BusFrame
  notices : List Notice

namespace ConverterBank

def empty : ConverterBank := ⟨[]⟩

/-- Registers a chip; the one that had the chip select before is dropped. -/
def withChip (b : ConverterBank) (chipSelect : Pin) (chip : ConverterChip) : ConverterBank :=
  ⟨b.chips.filter (·.1 != chipSelect) ++ [(chipSelect, chip)]⟩

def chip? (b : ConverterBank) (chipSelect : Pin) : Option ConverterChip :=
  (b.chips.find? (·.1 == chipSelect)).map (·.2)

def setChip (b : ConverterBank) (chipSelect : Pin) (chip : ConverterChip) : ConverterBank :=
  ⟨b.chips.map fun (cs, old) => if cs == chipSelect then (cs, chip) else (cs, old)⟩

def read (b : ConverterBank) (input : ConverterInput) : BankRead :=
  match b.chip? input.chipSelect with
  | none => ⟨conversionFault, b, [], [.converterMissing input.chipSelect]⟩
  | some chip =>
    let request := BusFrame.request input.channel
    let (reply, chip) := chip.transfer request
    let b := b.setChip input.chipSelect chip
    match reply with
    | some reply => ⟨reply.conversion, b, [request], []⟩
    | none =>
      ⟨conversionFault, b, [request], [.conversionFailed input.chipSelect input.channel]⟩

end ConverterBank

end HotFire
