import HotFire.Telemetry.Framer
import HotFire.Proofs.Telemetry.Ring

/-! What goes into a frame comes out of it again: numbers, items and whole frames,
whatever padding follows them. -/

namespace HotFire

@[simp] theorem length_leBytes (width n : Nat) : (leBytes width n).length = width := by
  induction width generalizing n with
  | zero => rfl
  | succ width ih => rw [leBytes, List.length_cons, ih]

theorem leValue_leBytes (width n : Nat) :
    leValue (leBytes width n) = n % Nat.pow 256 width := by
  induction width generalizing n with
  | zero => exact (Nat.mod_one n).symm
  | succ width ih =>
    have hlow : (UInt8.ofNat n).toNat = n % 256 := UInt8.toNat_ofNat'
    have hpow : Nat.pow 256 (width + 1) = 256 * Nat.pow 256 width := Nat.pow_succ'
    rw [leBytes, leValue, ih, hlow, hpow, Nat.mod_mul]

namespace Item

@[simp] theorem length_bytes (i : Item) : i.bytes.length = Frame.itemLength := by
  simp [bytes, Frame.itemLength]

theorem ofBytes_bytes (i : Item) : ofBytes i.bytes = i := by
  obtain ⟨reading, timestamp⟩ := i
  have hreading : (bytes ⟨reading, timestamp⟩).take 2 = leBytes 2 reading.toNat := by
    rw [bytes, List.append_assoc]
    exact List.take_left' (length_leBytes 2 _)
  have htimestamp : (bytes ⟨reading, timestamp⟩).drop 8 = leBytes 8 timestamp.toNat := by
    rw [bytes]
    exact List.drop_left' (by simp)
  rw [ofBytes, hreading, htimestamp, List.take_of_length_le (by simp), leValue_leBytes,
    leValue_leBytes]
  have hr : reading.toNat % Nat.pow 256 2 = reading.toNat := Nat.mod_eq_of_lt reading.toNat_lt
  have ht : timestamp.toNat % Nat.pow 256 8 = timestamp.toNat :=
    Nat.mod_eq_of_lt timestamp.toNat_lt
  rw [hr, ht, UInt16.ofNat_toNat, UInt64.ofNat_toNat]

@[simp] theorem length_flatMap_bytes (items : List Item) :
    (items.flatMap bytes).length = items.length * Frame.itemLength := by
  induction items with
  | nil => simp
  | cons i items ih =>
    rw [List.flatMap_cons, List.length_append, length_bytes, ih, List.length_cons, Nat.add_one_mul,
      Nat.add_comm]

theorem listOfBytes_flatMap (items : List Item) (rest : List UInt8) :
    listOfBytes items.length (items.flatMap bytes ++ rest) = items := by
  induction items with
  | nil => rfl
  | cons i items ih =>
    rw [List.flatMap_cons, List.append_assoc, List.length_cons, listOfBytes,
      List.take_left' i.length_bytes, List.drop_left' i.length_bytes, ofBytes_bytes, ih]

end Item

namespace Header

@[simp] theorem length_bytes (h : Header) : h.bytes.length = Frame.headerLength := rfl

theorem ofBytes_bytes (h : Header) (rest : List UInt8) : ofBytes (h.bytes ++ rest) = .ok h := by
  have hvalue : leValue (leBytes 2 h.length.toNat) = h.length.toNat := by
    rw [leValue_leBytes]
    exact Nat.mod_eq_of_lt h.length.toNat_lt
  show Except.ok (Header.mk h.sensorId (UInt16.ofNat (leValue (leBytes 2 h.length.toNat)))) = _
  rw [hvalue, UInt16.ofNat_toNat]

end Header

namespace Frame

@[simp] theorem length_bytes (id : UInt8) (items : List Item) :
    (bytes id items).length = headerLength + items.length * itemLength := by
  rw [bytes, List.length_append, Header.length_bytes, Item.length_flatMap_bytes]

/-- A frame of no more items than its header can count is read back, with anything
after it. -/
theorem decode_bytes (id : UInt8) {items : List Item}
    (h : items.length * itemLength ≤ maxPayload) (rest : List UInt8) :
    decode (bytes id items ++ rest) =
      .ok (⟨id, UInt16.ofNat (items.length * itemLength)⟩, items) := by
  have hpayload : (UInt16.ofNat (items.length * itemLength)).toNat = items.length * itemLength := by
    rw [UInt16.toNat_ofNat']
    exact Nat.mod_eq_of_lt (Nat.lt_of_le_of_lt h (by decide))
  have hrest : (bytes id items ++ rest).drop headerLength = items.flatMap Item.bytes ++ rest := by
    rw [bytes, List.append_assoc]
    exact List.drop_left' (Header.length_bytes _)
  have hlen : (bytes id items ++ rest).length =
      headerLength + items.length * itemLength + rest.length := by
    rw [List.length_append, length_bytes]
  have hheader : Header.ofBytes (bytes id items ++ rest) =
      .ok ⟨id, UInt16.ofNat (items.length * itemLength)⟩ := by
    rw [bytes, List.append_assoc, Header.ofBytes_bytes]
  have haligned : items.length * itemLength % itemLength = 0 := Nat.mul_mod_left _ _
  have hcount : items.length * itemLength / itemLength = items.length :=
    Nat.mul_div_cancel _ (by decide)
  simp only [decode, hheader, hpayload, haligned, hrest, hcount, Item.listOfBytes_flatMap]
  rw [if_neg (by simp), if_neg (by omega)]

end Frame

namespace Ring

variable {slots : Nat}

/-- The loop pops as many items as the bytes up to the limit have room for, and puts
their bytes in place of those at the front. -/
theorem drainFrom_eq (limit offset : Nat) (space : List UInt8) (ring : Ring Item slots) {n : Nat}
    (hn : (limit - offset) / Frame.itemLength = n) :
    ring.drainFrom limit offset space =
      ⟨offset + (ring.popUpTo n).1.length * Frame.itemLength,
        overwrite ((ring.popUpTo n).1.flatMap Item.bytes) space, (ring.popUpTo n).2⟩ := by
  have hpos : 0 < Frame.itemLength := by decide
  fun_induction drainFrom limit offset space ring generalizing n with
  | case1 offset space ring hroom rest hpop =>
    have hfits : Frame.itemLength ≤ limit - offset := by omega
    have hnone : ring.popUpTo n = ([], rest) := by
      cases n with
      | zero => exact absurd hn (Nat.ne_of_gt (Nat.div_pos hfits hpos))
      | succ n => rw [popUpTo, hpop]
    simp [hnone, overwrite]
  | case2 offset space ring hroom item rest hpop written after last hafter ih =>
    have hfits : Frame.itemLength ≤ limit - offset := by omega
    have hcount : n = (limit - (offset + Frame.itemLength)) / Frame.itemLength + 1 := by
      rw [← hn, Nat.div_eq_sub_div hpos hfits, Nat.sub_sub]
    subst hcount
    obtain ⟨rfl, rfl, rfl⟩ := Drained.mk.inj (hafter.symm.trans (ih rfl))
    simp only [popUpTo, hpop, overwrite, List.length_cons, List.flatMap_cons,
      List.length_append, Item.length_bytes, List.append_assoc, List.drop_drop, Nat.add_one_mul,
      Drained.mk.injEq, and_true]
    omega
  | case3 offset space ring hfull =>
    have hnone : n = 0 := hn.symm.trans (Nat.div_eq_of_lt (by omega))
    simp [hnone, popUpTo, overwrite]

/-- Draining takes the oldest items that fit and writes their frame in place of the
start of the buffer. -/
theorem drain_of_room (ring : Ring Item slots) (id : UInt8) {buffer : List UInt8}
    {maxBytes limit k : Nat} (hlimit : min (min maxBytes buffer.length) Frame.maxLength = limit)
    (hroom : Frame.headerLength ≤ limit)
    (hk : min ring.toList.length ((limit - Frame.headerLength) / Frame.itemLength) = k) :
    ∃ rest, rest.toList = ring.toList.drop k ∧
      ring.drain id buffer maxBytes = (.ok (Frame.headerLength + k * Frame.itemLength),
        overwrite (Frame.bytes id (ring.toList.take k)) buffer, rest) := by
  let n := (limit - Frame.headerLength) / Frame.itemLength
  obtain ⟨hpopped, hrest⟩ := popUpTo_eq n ring
  have hlength : (ring.toList.take k).length = k := List.length_take_of_le (by omega)
  have hitems : (ring.popUpTo n).1 = ring.toList.take k := by
    rw [hpopped, List.take_eq_take_min, Nat.min_comm, hk]
  refine ⟨(ring.popUpTo n).2, ?_, ?_⟩
  · rw [hrest, List.drop_eq_drop_min, Nat.min_comm, hk]
  · have hloop := ring.drainFrom_eq limit Frame.headerLength (buffer.drop Frame.headerLength)
      (n := n) rfl
    rw [hitems, hlength] at hloop
    simp only [drain, hlimit, if_neg (Nat.not_lt_of_le hroom), hloop, Frame.bytes, hlength, overwrite,
      Nat.add_sub_cancel_left, List.append_assoc, List.length_append, Header.length_bytes,
      Item.length_flatMap_bytes, List.drop_drop]

end Ring

namespace Framer

/-- A frame holds the oldest items that fit and is filled up with zeros. -/
theorem frame_eq {f : Framer} (hlow : Frame.headerLength ≤ f.frameLength)
    (hhigh : f.frameLength ≤ Frame.length) (id : UInt8) (buffer : SampleBuffer) {k : Nat}
    (hk : min buffer.toList.length
      ((f.frameLength - Frame.headerLength) / Frame.itemLength) = k) :
    (f.frame id buffer).1 = Frame.bytes id (buffer.toList.take k) ++
        List.replicate (f.frameLength - (Frame.bytes id (buffer.toList.take k)).length) 0 ∧
      (f.frame id buffer).2.toList = buffer.toList.drop k := by
  have hmax : Frame.length ≤ Frame.maxLength := by decide
  have hlimit : min (min f.frameLength (List.replicate f.frameLength (0 : UInt8)).length)
      Frame.maxLength = f.frameLength := by
    rw [List.length_replicate]
    omega
  obtain ⟨rest, hrest, hdrain⟩ := buffer.drain_of_room id hlimit hlow hk
  simp only [frame, hdrain, overwrite, List.drop_replicate]
  exact ⟨trivial, hrest⟩

theorem standard_frame (id : UInt8) (buffer : SampleBuffer) :
    (standard.frame id buffer).1 = Frame.bytes id buffer.toList ++
        List.replicate (Frame.length - (Frame.bytes id buffer.toList).length) 0 ∧
      (standard.frame id buffer).2.toList = [] := by
  have hcapacity : buffer.toList.length ≤ Frame.capacity := by
    rw [Ring.length_toList]
    exact Nat.le_of_lt_succ buffer.length_lt
  obtain ⟨hbytes, hrest⟩ := frame_eq (f := standard) (by decide) (by decide) id buffer
    (Nat.min_eq_left hcapacity)
  rw [List.take_length] at hbytes
  rw [List.drop_length] at hrest
  exact ⟨hbytes, hrest⟩

end Framer

end HotFire
