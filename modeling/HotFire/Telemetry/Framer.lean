import HotFire.Notice
import HotFire.Telemetry.Frame
import HotFire.Telemetry.Ring

/-! From sample buffers to frames on the wire. -/

namespace HotFire

/-- `written` counts from the start of the buffer that was drained into. -/
structure Drained (slots : Nat) where
  written : Nat
  buffer : List UInt8
  ring : Ring Item slots

namespace Ring

variable {slots : Nat}

/-- Pops items as long as the next one ends by `limit`, and writes them one after the
other from `offset` on, where `space` begins. -/
def drainFrom (limit offset : Nat) (space : List UInt8) (ring : Ring Item slots) : Drained slots :=
  if offset + Frame.itemLength ≤ limit then
    match ring.pop with
    | (none, rest) => ⟨offset, space, rest⟩
    | (some item, rest) =>
      let ⟨written, space, rest⟩ :=
        drainFrom limit (offset + Frame.itemLength) (space.drop Frame.itemLength) rest
      ⟨written, item.bytes ++ space, rest⟩
  else ⟨offset, space, ring⟩
termination_by limit - offset
decreasing_by simp only [Frame.itemLength] at *; omega

/-- Moves the oldest items into a frame at the start of `buffer`, as many as fit
into the buffer, into `maxBytes` and into the longest frame; gives the frame's length,
and the buffer and the ring as they are left. -/
def drain (ring : Ring Item slots) (sensorId : UInt8) (buffer : List UInt8) (maxBytes : Nat) :
    Except FrameError Nat × List UInt8 × Ring Item slots :=
  let limit := min (min maxBytes buffer.length) Frame.maxLength
  if limit < Frame.headerLength then (.error (.bufferTooSmall limit), buffer, ring)
  else
    let d := ring.drainFrom limit Frame.headerLength (buffer.drop Frame.headerLength)
    -- The header is written last, when the length of the payload is known.
    let header := Header.mk sensorId (UInt16.ofNat (d.written - Frame.headerLength))
    (.ok d.written, header.bytes ++ d.buffer, d.ring)

def drainInto (ring : Ring Item slots) (sensorId : UInt8) (buffer : List UInt8) (maxBytes : Nat) :
    Except FrameError (Drained slots) :=
  let (result, buffer, ring) := ring.drain sensorId buffer maxBytes
  result.map (⟨·, buffer, ring⟩)

end Ring

/-- The samples of one sensor that wait for a frame. -/
abbrev SampleBuffer := Ring Item Frame.slots

def SampleBuffer.empty : SampleBuffer := Ring.empty (by decide)

/-- Builds frames of one length, padded with zeros. -/
structure Framer where
  frameLength : Nat
  deriving DecidableEq, Repr

namespace Framer

/-- The length asked for, kept between a bare header and a full buffer. -/
def ofLength (n : Nat) : Framer := ⟨max Frame.headerLength (min n Frame.length)⟩

def standard : Framer := ofLength Frame.length

/-- The drain's answer is left aside: a frame has room for a header, so it never fails. -/
def frame (f : Framer) (sensorId : UInt8) (buffer : SampleBuffer) : List UInt8 × SampleBuffer :=
  (buffer.drain sensorId (List.replicate f.frameLength 0) f.frameLength).2

/-- What the log hears of a frame handed to the link. -/
def transmitNotice (label : String) (frame : List UInt8) : Option LinkFault → Notice
  | none => .frameSent label frame.length
  | some fault => .frameDropped label fault

end Framer

end HotFire
