import HotFire.Telemetry.Bytes

/-! Telemetry frames: a four-byte header (sensor, zero, payload length) and items
of sixteen bytes (reading, six zeros, timestamp), all little-endian. -/

namespace HotFire

structure Item where
  reading : UInt16
  timestamp : UInt64
  deriving DecidableEq, Repr, Inhabited

structure Header where
  sensorId : UInt8
  length : UInt16
  deriving DecidableEq, Repr

inductive FrameError where
  | truncated (needed available : Nat)
  | misaligned (length : UInt16)
  | bufferTooSmall (length : Nat)
  deriving DecidableEq, Repr

def FrameError.message : FrameError → String
  | .truncated needed available => s!"truncated: need {needed} bytes, have {available}"
  | .misaligned length => s!"payload length {length.toNat} is not item-aligned"
  | .bufferTooSmall length => s!"output buffer of {length} bytes too small"

namespace Frame

def headerLength : Nat := 4
def itemLength : Nat := 16

/-- Items in a frame of a full sample buffer. -/
def capacity : Nat := 16
def slots : Nat := capacity + 1

def length : Nat := headerLength + capacity * itemLength

/-- The largest payload length a header can declare. -/
def maxPayload : Nat := 65535

def maxLength : Nat := headerLength + maxPayload / itemLength * itemLength

end Frame

namespace Header

def bytes (h : Header) : List UInt8 := [h.sensorId, 0] ++ leBytes 2 h.length.toNat

/-- The second byte is not looked at. -/
def ofBytes : List UInt8 → Except FrameError Header
  | id :: _ :: low :: high :: _ => .ok ⟨id, UInt16.ofNat (leValue [low, high])⟩
  | short => .error (.truncated Frame.headerLength short.length)

end Header

namespace Item

def bytes (i : Item) : List UInt8 :=
  leBytes 2 i.reading.toNat ++ List.replicate 6 0 ++ leBytes 8 i.timestamp.toNat

/-- Reads the first sixteen bytes; the six between the numbers are not looked
at. -/
def ofBytes (bs : List UInt8) : Item where
  reading := UInt16.ofNat (leValue (bs.take 2))
  timestamp := UInt64.ofNat (leValue ((bs.drop 8).take 8))

def listOfBytes : Nat → List UInt8 → List Item
  | 0, _ => []
  | n + 1, bs => ofBytes (bs.take Frame.itemLength) :: listOfBytes n (bs.drop Frame.itemLength)

end Item

namespace Frame

/-- A frame's bytes; the header declares the length that the items need. -/
def bytes (sensorId : UInt8) (items : List Item) : List UInt8 :=
  (Header.mk sensorId (UInt16.ofNat (items.length * itemLength))).bytes ++ items.flatMap Item.bytes

/-- Writes a frame to the start of a buffer; gives its length, and the buffer as it
is left. The length in `header` is not used. -/
def encodeInto (header : Header) (items : List Item) (out : List UInt8) :
    Except FrameError Nat × List UInt8 :=
  let total := headerLength + items.length * itemLength
  if out.length < total ∨ maxPayload < items.length * itemLength then
    (.error (.bufferTooSmall out.length), out)
  else (.ok total, overwrite (bytes header.sensorId items) out)

/-- The length of the frame with the buffer that holds it, if it fits. -/
def encode (header : Header) (items : List Item) (out : List UInt8) :
    Except FrameError (Nat × List UInt8) :=
  let (result, buffer) := encodeInto header items out
  result.map (·, buffer)

/-- Reads a frame from the start of `bs`; bytes after the payload are ignored. -/
def decode (bs : List UInt8) : Except FrameError (Header × List Item) :=
  match Header.ofBytes bs with
  | .error e => .error e
  | .ok header =>
    let payload := header.length.toNat
    if payload % itemLength ≠ 0 then .error (.misaligned header.length)
    else if bs.length < headerLength + payload then
      .error (.truncated (headerLength + payload) bs.length)
    else .ok (header, Item.listOfBytes (payload / itemLength) (bs.drop headerLength))

end Frame

end HotFire
