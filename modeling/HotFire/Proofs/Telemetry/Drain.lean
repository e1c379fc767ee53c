import HotFire.Proofs.Telemetry.Codec

/-! What leaves a ring in a drain. A budget of bytes takes the oldest items that fit
whole and writes them as the encoder does; frames of every length give their items
back, until none is left. -/

namespace HotFire

theorem Frame.payload_le {held room k : Nat} (hk : min held (room / itemLength) = k) :
    k * itemLength ≤ room := by
  have hle : k ≤ room / itemLength := by omega
  exact Nat.le_trans (Nat.mul_le_mul_right _ hle) (Nat.div_mul_le_self _ _)

namespace Ring

variable {slots : Nat}

/-- A drain writes what the encoder writes. Without room for a header nothing changes. With it,
the oldest items that fit whole are taken: the encoder, given them and any buffer that is long
enough, gives the same length and the same bytes, of which the header declares all but its own;
the rest of the buffer and of the ring stays. -/
theorem drain_encodes_oldest (ring : Ring Item slots) (id : UInt8) (buffer : List UInt8)
    (maxBytes : Nat) :
    let limit := min (min maxBytes buffer.length) Frame.maxLength
    let k := min ring.toList.length ((limit - Frame.headerLength) / Frame.itemLength)
    let total := Frame.headerLength + k * Frame.itemLength
    (limit < Frame.headerLength →
      ring.drain id buffer maxBytes = (.error (.bufferTooSmall limit), buffer, ring)) ∧
    (Frame.headerLength ≤ limit → ∃ written rest,
      ring.drain id buffer maxBytes = (.ok total, written, rest) ∧
      (∀ length out, total ≤ out.length →
        Frame.encodeInto ⟨id, length⟩ (ring.toList.take k) out =
          (.ok total, written.take total ++ out.drop total)) ∧
      written.length = buffer.length ∧ written.drop total = buffer.drop total ∧
      (∃ length : UInt16, Header.ofBytes written = .ok ⟨id, length⟩ ∧
        length.toNat = k * Frame.itemLength) ∧
      rest.toList = ring.toList.drop k) := by
  intro limit k total
  refine ⟨fun h => if_pos h, fun h => ?_⟩
  obtain ⟨rest, hrest, hdrain⟩ := ring.drain_of_room id rfl h rfl
  have hcount : (ring.toList.take k).length = k := List.length_take_of_le (Nat.min_le_left _ _)
  have hitems : k * Frame.itemLength ≤ limit - Frame.headerLength := Frame.payload_le rfl
  have hbytes : (Frame.bytes id (ring.toList.take k)).length = total := by
    rw [Frame.length_bytes, hcount]
  have htotal : total ≤ buffer.length := by
    have hle : limit ≤ buffer.length := Nat.le_trans (Nat.min_le_left _ _) (Nat.min_le_right _ _)
    simp only [total]
    omega
  have hpayload : k * Frame.itemLength ≤ Frame.maxPayload := by
    have hle : limit ≤ Frame.maxLength := Nat.min_le_right _ _
    have hmax : Frame.maxLength - Frame.headerLength ≤ Frame.maxPayload := by decide
    omega
  refine ⟨_, rest, hdrain, fun length out hout => ?_, ?_, ?_,
    ⟨UInt16.ofNat (k * Frame.itemLength), ?_, ?_⟩, hrest⟩
  · rw [Frame.encodeInto_of_fits ⟨id, length⟩ (by rwa [hcount]) (by rwa [hcount]), hcount,
      overwrite, List.take_left' hbytes]
  · rw [overwrite, List.length_append, List.length_drop, hbytes]
    omega
  · rw [overwrite, List.drop_left' hbytes, hbytes]
  · rw [overwrite, Frame.bytes, List.append_assoc, Header.ofBytes_bytes, hcount]
  · exact UInt16.toNat_ofNat_of_lt' (Nat.lt_of_le_of_lt hpayload (by decide))

/-- A ring that has turned, and a budget that ends inside its second item. -/
theorem drain_encodes_oldest_of_turned :
    let first : Ring Item 3 := ((empty (by decide)).push ⟨1, 1⟩).1.pop.2
    let ring := ((first.push ⟨2, 2⟩).1.push ⟨3, 3⟩).1
    let buffer : List UInt8 := List.replicate 40 170
    ring.head.val = 0 ∧
      (2 < Frame.headerLength ∧
        ring.drain 7 buffer 2 = (.error (.bufferTooSmall 2), buffer, ring)) ∧
      Frame.headerLength ≤ 30 ∧
      ∃ written rest, ring.drain 7 buffer 30 = (.ok 20, written, rest) ∧
        (∀ length, Frame.encodeInto ⟨7, length⟩ [⟨2, 2⟩] buffer = (.ok 20, written)) ∧
        rest.toList = [⟨3, 3⟩] := by
  intro first ring buffer
  have hheld : ring.toList = [⟨2, 2⟩, ⟨3, 3⟩] := by decide
  have htiny : min (min 2 buffer.length) Frame.maxLength = 2 := by decide
  have hlimit : min (min 30 buffer.length) Frame.maxLength = 30 := by decide
  have hone : min 2 ((30 - Frame.headerLength) / Frame.itemLength) = 1 := by decide
  have hsmall := (ring.drain_encodes_oldest 7 buffer 2).1
  have hroom := (ring.drain_encodes_oldest 7 buffer 30).2
  simp only [htiny] at hsmall
  simp only [hlimit, hheld, List.length_cons, List.length_nil, Nat.zero_add, hone] at hroom
  obtain ⟨written, rest, hdrain, hencode, -, hkept, -, hrest⟩ := hroom (by decide)
  refine ⟨by decide, ⟨by decide, hsmall (by decide)⟩, by decide, written, rest, hdrain,
    fun length => ?_, hrest⟩
  have hsame := hencode length buffer (by decide)
  rw [← hkept, List.take_append_drop] at hsame
  exact hsame

end Ring

namespace Framer

/-- All of the frames decode, and their items in turn are these. -/
def Carry (frames : List (List UInt8)) (items : List Item) : Prop :=
  ∃ decoded : List (Header × List Item),
    frames.map Frame.decode = decoded.map .ok ∧ decoded.flatMap (·.2) = items

/-- As many frames as are asked for, one after the other, and the buffer that they leave. -/
def frames (f : Framer) (id : UInt8) : Nat → SampleBuffer → List (List UInt8) × SampleBuffer
  | 0, buffer => ([], buffer)
  | n + 1, buffer =>
    let (frame, rest) := f.frame id buffer
    let (more, last) := f.frames id n rest
    (frame :: more, last)

variable {f : Framer}

theorem frame_decodes (hlow : Frame.headerLength ≤ f.frameLength)
    (hhigh : f.frameLength ≤ Frame.length) (id : UInt8) (buffer : SampleBuffer) {k : Nat}
    (hk : min buffer.toList.length
      ((f.frameLength - Frame.headerLength) / Frame.itemLength) = k) :
    (f.frame id buffer).1.length = f.frameLength ∧
      Frame.decode (f.frame id buffer).1 =
        .ok (⟨id, UInt16.ofNat (k * Frame.itemLength)⟩, buffer.toList.take k) ∧
      ∀ b ∈ (f.frame id buffer).1.drop (Frame.headerLength + k * Frame.itemLength), b = 0 := by
  have hcount : (buffer.toList.take k).length = k := List.length_take_of_le (by omega)
  have hitems : k * Frame.itemLength ≤ f.frameLength - Frame.headerLength :=
    Frame.payload_le hk
  have hmax : Frame.length ≤ Frame.maxPayload := by decide
  have hbytes : (Frame.bytes id (buffer.toList.take k)).length =
      Frame.headerLength + k * Frame.itemLength := by
    rw [Frame.length_bytes, hcount]
  rw [(frame_eq hlow hhigh id buffer hk).1, hbytes]
  refine ⟨?_, ?_, fun b hb => ?_⟩
  · rw [List.length_append, hbytes, List.length_replicate]
    omega
  · rw [Frame.decode_bytes id (by rw [hcount]; omega), hcount]
  · rw [List.drop_left' hbytes] at hb
    exact List.eq_of_mem_replicate hb

/-- Frames take the items off the front in order, each frame the same number of them. -/
theorem frames_decode (hlow : Frame.headerLength ≤ f.frameLength)
    (hhigh : f.frameLength ≤ Frame.length) (id : UInt8) {each : Nat}
    (heach : (f.frameLength - Frame.headerLength) / Frame.itemLength = each) (n : Nat)
    (buffer : SampleBuffer) :
    (f.frames id n buffer).2.toList = buffer.toList.drop (n * each) ∧
      Carry (f.frames id n buffer).1 (buffer.toList.take (n * each)) := by
  induction n generalizing buffer with
  | zero => exact ⟨by simp [frames], [], by simp [frames]⟩
  | succ n ih =>
    obtain ⟨-, hdecode, -⟩ := frame_decodes hlow hhigh id buffer rfl
    obtain ⟨-, hrest⟩ := frame_eq hlow hhigh id buffer rfl
    rw [heach, Nat.min_comm, ← List.take_eq_take_min] at hdecode
    rw [heach, Nat.min_comm, ← List.drop_eq_drop_min] at hrest
    obtain ⟨header, hfirst⟩ : ∃ header, Frame.decode (f.frame id buffer).1 =
        .ok (header, buffer.toList.take each) := ⟨_, hdecode⟩
    obtain ⟨hlast, decoded, hmore, hitems⟩ := ih (f.frame id buffer).2
    have hsucc : (n + 1) * each = each + n * each := by rw [Nat.add_one_mul, Nat.add_comm]
    refine ⟨?_, (header, buffer.toList.take each) :: decoded, ?_, ?_⟩
    · rw [hsucc, ← List.drop_drop, ← hrest]
      exact hlast
    · exact congr (congrArg List.cons hfirst) hmore
    · rw [List.flatMap_cons, hitems, hrest, hsucc, List.take_add]

/-- Framing gives every item back. For whatever length is asked for, a frame is that long within
the bounds of a header and a full buffer, decodes to the oldest items that fit whole, ends in
zeros and leaves the other items in order. Where an item fits, the buffer is empty once as
many frames have been built as the items need, and not before, and these decode to all of them. -/
theorem frames_give_items_back (n : Nat) (id : UInt8) (buffer : SampleBuffer) :
    let length := max Frame.headerLength (min n Frame.length)
    let each := (length - Frame.headerLength) / Frame.itemLength
    let k := min buffer.toList.length each
    let (frame, rest) := (ofLength n).frame id buffer
    frame.length = length ∧
      (∃ payload : UInt16, payload.toNat = k * Frame.itemLength ∧
        Frame.decode frame = .ok (⟨id, payload⟩, buffer.toList.take k)) ∧
      (∀ b ∈ frame.drop (Frame.headerLength + k * Frame.itemLength), b = 0) ∧
      rest.toList = buffer.toList.drop k ∧
      (Frame.headerLength + Frame.itemLength ≤ length →
        let count := (buffer.toList.length + each - 1) / each
        (∀ m, ((ofLength n).frames id m buffer).2.isEmpty = true ↔ count ≤ m) ∧
        Carry ((ofLength n).frames id count buffer).1 buffer.toList) := by
  intro length each k
  have hlow : Frame.headerLength ≤ (ofLength n).frameLength := Nat.le_max_left _ _
  have hhigh : (ofLength n).frameLength ≤ Frame.length :=
    Nat.max_le.mpr ⟨by decide, Nat.min_le_right _ _⟩
  obtain ⟨hlength, hdecode, hzero⟩ := frame_decodes hlow hhigh id buffer rfl
  have hpayload : k * Frame.itemLength < 2 ^ 16 := by
    have hk : k ≤ Frame.capacity := Nat.le_trans (Nat.min_le_left _ _) (by
      rw [Ring.length_toList]
      exact Nat.le_of_lt_succ buffer.length_lt)
    exact Nat.lt_of_le_of_lt (Nat.mul_le_mul_right _ hk) (by decide)
  refine ⟨hlength, ⟨_, UInt16.toNat_ofNat_of_lt' hpayload, hdecode⟩, hzero,
    (frame_eq hlow hhigh id buffer rfl).2, fun hroom => ?_⟩
  intro count
  have heach : ((ofLength n).frameLength - Frame.headerLength) / Frame.itemLength = each := rfl
  have hpos : 0 < each := Nat.div_pos (by omega) (by decide)
  have hcount : ∀ m, count ≤ m ↔ buffer.toList.length ≤ m * each := by
    intro m
    have hmul : each * m = m * each := Nat.mul_comm _ _
    rw [Nat.div_le_iff_le_mul_add_pred hpos]
    omega
  refine ⟨fun m => ?_, ?_⟩
  · obtain ⟨hlast, -⟩ := frames_decode hlow hhigh id heach m buffer
    rw [Ring.isEmpty_iff, ← Ring.length_toList, hlast, List.length_drop, hcount]
    exact Nat.sub_eq_zero_iff_le
  · obtain ⟨-, hcarry⟩ := frames_decode hlow hhigh id heach count buffer
    have hall : buffer.toList.length ≤ count * each := (hcount count).mp (Nat.le_refl _)
    rwa [List.take_of_length_le hall] at hcarry

/-- Two items to a frame, and three to frame. -/
theorem frames_give_items_back_of_three :
    let items : List Item := [⟨1, 1⟩, ⟨2, 2⟩, ⟨3, 3⟩]
    let buffer : SampleBuffer := (SampleBuffer.empty.pushAll items).1
    Frame.headerLength + Frame.itemLength ≤ 40 ∧ ((ofLength 40).frame 7 buffer).1.length = 40 ∧
      (∀ m, ((ofLength 40).frames 7 m buffer).2.isEmpty = true ↔ 2 ≤ m) ∧
      Carry ((ofLength 40).frames 7 2 buffer).1 items := by
  intro items buffer
  have hheld : buffer.toList = items := by decide
  obtain ⟨hlength, -, -, -, hall⟩ := frames_give_items_back 40 7 buffer
  obtain ⟨hempty, hcarry⟩ := hall (by decide)
  have heach : (max Frame.headerLength (min 40 Frame.length) - Frame.headerLength) /
      Frame.itemLength = 2 := by decide
  have hcount : (items.length + 2 - 1) / 2 = 2 := by decide
  rw [hheld, heach, hcount] at hempty hcarry
  exact ⟨by decide, hlength, hempty, hcarry⟩

end Framer

end HotFire
