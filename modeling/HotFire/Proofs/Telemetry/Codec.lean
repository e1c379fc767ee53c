import HotFire.Proofs.Telemetry.Frame

/-! The frame format both ways. Encoding and decoding are inverse to each other, up to
the bytes that carry nothing: the second byte of the header and six in every item. -/

namespace HotFire

theorem leValue_lt (bs : List UInt8) : leValue bs < Nat.pow 256 bs.length := by
  induction bs with
  | nil => decide
  | cons b bs ih =>
    have hpow : Nat.pow 256 (b :: bs).length = 256 * Nat.pow 256 bs.length := Nat.pow_succ'
    have hb : b.toNat < 256 := b.toNat_lt
    rw [leValue, hpow]
    omega

theorem leBytes_leValue (bs : List UInt8) : leBytes bs.length (leValue bs) = bs := by
  induction bs with
  | nil => rfl
  | cons b bs ih =>
    have hb : b.toNat < 256 := b.toNat_lt
    have hlow : UInt8.ofNat (b.toNat + 256 * leValue bs) = b := by
      rw [← UInt8.toNat_inj, UInt8.toNat_ofNat', Nat.add_mul_mod_self_left]
      exact Nat.mod_eq_of_lt hb
    have hhigh : (b.toNat + 256 * leValue bs) / 256 = leValue bs := by omega
    rw [List.length_cons, leBytes, leValue, hlow, hhigh, ih]

namespace Item

/-- The positions in a payload that carry nothing. -/
def Padding (i : Nat) : Prop := 2 ≤ i % Frame.itemLength ∧ i % Frame.itemLength < 8

instance : DecidablePred Padding := fun _ => inferInstanceAs (Decidable (_ ∧ _))

theorem bytes_ofBytes {bs : List UInt8} (h : bs.length = Frame.itemLength) :
    (ofBytes bs).bytes = bs.mapIdx fun i b => if Padding i then 0 else b := by
  have hread : (bs.take 2).length = 2 := List.length_take_of_le (h ▸ by decide)
  have htime : ((bs.drop 8).take 8).length = 8 := by rw [List.length_take, List.length_drop, h]; rfl
  have hreading : leBytes 2 (ofBytes bs).reading.toNat = bs.take 2 := by
    have hlt := leValue_lt (bs.take 2)
    rw [hread] at hlt
    rw [ofBytes, UInt16.toNat_ofNat_of_lt' hlt]
    simpa only [hread] using leBytes_leValue (bs.take 2)
  have htimestamp : leBytes 8 (ofBytes bs).timestamp.toNat = (bs.drop 8).take 8 := by
    have hlt := leValue_lt ((bs.drop 8).take 8)
    rw [htime] at hlt
    rw [ofBytes, UInt64.toNat_ofNat_of_lt' hlt]
    simpa only [htime] using leBytes_leValue ((bs.drop 8).take 8)
  have hlast : (bs.take 2 ++ List.replicate 6 (0 : UInt8)).length = 8 := by simp [hread]
  rw [bytes, hreading, htimestamp]
  refine List.ext_getElem (by simp [h, Frame.itemLength]) fun i hi _ => ?_
  have hin : i < Frame.itemLength := by simpa [h, Frame.itemLength] using hi
  have hpadding : Padding i ↔ 2 ≤ i ∧ i < 8 := by rw [Padding, Nat.mod_eq_of_lt hin]
  rw [List.getElem_mapIdx]
  by_cases hnumber : i < 2
  · rw [if_neg (by rw [hpadding]; omega), List.getElem_append_left (by omega),
      List.getElem_append_left (by omega), List.getElem_take]
  · by_cases hpad : i < 8
    · rw [if_pos (hpadding.mpr ⟨by omega, hpad⟩), List.getElem_append_left (by omega),
        List.getElem_append_right (by omega), List.getElem_replicate]
    · rw [if_neg (by rw [hpadding]; omega), List.getElem_append_right (by omega), List.getElem_take,
        List.getElem_drop]
      congr 1
      omega

@[simp] theorem length_listOfBytes (n : Nat) (bs : List UInt8) :
    (listOfBytes n bs).length = n := by
  induction n generalizing bs with
  | zero => rfl
  | succ n ih => rw [listOfBytes, List.length_cons, ih]

theorem flatMap_bytes_listOfBytes {n : Nat} {bs : List UInt8}
    (h : n * Frame.itemLength ≤ bs.length) :
    (listOfBytes n bs).flatMap bytes =
      (bs.take (n * Frame.itemLength)).mapIdx fun i b => if Padding i then 0 else b := by
  induction n generalizing bs with
  | zero => simp [listOfBytes]
  | succ n ih =>
    rw [Nat.add_one_mul] at h
    have hchunk : (bs.take Frame.itemLength).length = Frame.itemLength :=
      List.length_take_of_le (by omega)
    have hrest : n * Frame.itemLength ≤ (bs.drop Frame.itemLength).length := by
      rw [List.length_drop]
      omega
    -- an item further on, the same bytes are padding
    have hshift : ∀ i, Padding (i + Frame.itemLength) ↔ Padding i := by
      intro i
      rw [Padding, Padding, Nat.add_mod_right]
    rw [listOfBytes, List.flatMap_cons, bytes_ofBytes hchunk, ih hrest, Nat.add_one_mul,
      Nat.add_comm (n * Frame.itemLength), List.take_add, List.mapIdx_append, hchunk]
    simp only [hshift]

end Item

namespace Frame

/-- The payload length that the start of `bs` declares. -/
def declared (bs : List UInt8) : UInt16 := UInt16.ofNat (leValue ((bs.drop 2).take 2))

/-- The positions in a frame that carry nothing. -/
def Padding (i : Nat) : Prop := i = 1 ∨ headerLength ≤ i ∧ Item.Padding (i - headerLength)

instance : DecidablePred Padding := fun _ => inferInstanceAs (Decidable (_ ∨ _))

def blanked (bs : List UInt8) : List UInt8 := bs.mapIdx fun i b => if Padding i then 0 else b

theorem blanked_append {header payload : List UInt8} (h : header.length = headerLength) :
    blanked (header ++ payload) =
      blanked header ++ payload.mapIdx fun i b => if Item.Padding i then 0 else b := by
  have hshift : ∀ i, Padding (i + headerLength) ↔ Item.Padding i := by
    intro i
    have hpast : i + headerLength ≠ 1 := by
      rw [headerLength]
      omega
    rw [Padding, or_iff_right hpast, and_iff_right (Nat.le_add_left _ _), Nat.add_sub_cancel]
  rw [blanked, List.mapIdx_append, h]
  simp only [hshift]
  rfl

end Frame

namespace Header

theorem ofBytes_of_short {bs : List UInt8} (h : bs.length < Frame.headerLength) :
    ofBytes bs = .error (.truncated Frame.headerLength bs.length) := by
  match bs, h with
  | [], _ | [_], _ | [_, _], _ | [_, _, _], _ => rfl
  | _ :: _ :: _ :: _ :: rest, h => exact absurd h (by simp [Frame.headerLength])

theorem ofBytes_of_long {bs : List UInt8} (h : Frame.headerLength ≤ bs.length) :
    ∃ id, ofBytes bs = .ok ⟨id, Frame.declared bs⟩ ∧
      bytes ⟨id, Frame.declared bs⟩ = Frame.blanked (bs.take Frame.headerLength) := by
  match bs, h with
  | id :: pad :: low :: high :: rest, _ =>
    refine ⟨id, rfl, ?_⟩
    have hlt : leValue [low, high] < Nat.pow 256 2 := leValue_lt [low, high]
    have hlength : leBytes 2 (UInt16.ofNat (leValue [low, high])).toNat = [low, high] := by
      rw [UInt16.toNat_ofNat_of_lt' hlt]
      exact leBytes_leValue [low, high]
    show [id, 0] ++ leBytes 2 (UInt16.ofNat (leValue [low, high])).toNat = [id, 0, low, high]
    rw [hlength]
    rfl

end Header

namespace Frame

theorem decode_of_short {bs : List UInt8} (h : bs.length < headerLength) :
    decode bs = .error (.truncated headerLength bs.length) := by
  rw [decode, Header.ofBytes_of_short h]

theorem decode_of_misaligned {bs : List UInt8} (h : headerLength ≤ bs.length)
    (hodd : ¬ itemLength ∣ (declared bs).toNat) : decode bs = .error (.misaligned (declared bs)) := by
  obtain ⟨id, hheader, -⟩ := Header.ofBytes_of_long h
  rw [Nat.dvd_iff_mod_eq_zero] at hodd
  simp only [decode, hheader]
  rw [if_pos hodd]

theorem decode_of_truncated {bs : List UInt8} (h : headerLength ≤ bs.length)
    (heven : itemLength ∣ (declared bs).toNat)
    (hcut : bs.length < headerLength + (declared bs).toNat) :
    decode bs = .error (.truncated (headerLength + (declared bs).toNat) bs.length) := by
  obtain ⟨id, hheader, -⟩ := Header.ofBytes_of_long h
  simp only [decode, hheader]
  rw [if_neg (not_not_intro (Nat.mod_eq_zero_of_dvd heven)), if_pos hcut]

/-- A whole frame is read, and only its padding is lost. -/
theorem decode_of_whole {bs : List UInt8} (heven : itemLength ∣ (declared bs).toNat)
    (hwhole : headerLength + (declared bs).toNat ≤ bs.length) :
    ∃ id items, decode bs = .ok (⟨id, declared bs⟩, items) ∧
      (declared bs).toNat = items.length * itemLength ∧
      bytes id items = blanked (bs.take (headerLength + (declared bs).toNat)) := by
  have hlong : headerLength ≤ bs.length := Nat.le_trans (Nat.le_add_right _ _) hwhole
  obtain ⟨id, hheader, hid⟩ := Header.ofBytes_of_long hlong
  have hcount : (declared bs).toNat / itemLength * itemLength = (declared bs).toNat :=
    Nat.div_mul_cancel heven
  have hpayload : (declared bs).toNat / itemLength * itemLength ≤ (bs.drop headerLength).length := by
    rw [hcount, List.length_drop]
    omega
  refine ⟨id, Item.listOfBytes ((declared bs).toNat / itemLength) (bs.drop headerLength), ?_, ?_, ?_⟩
  · simp only [decode, hheader]
    rw [if_neg (not_not_intro (Nat.mod_eq_zero_of_dvd heven)), if_neg (Nat.not_lt_of_le hwhole)]
  · rw [Item.length_listOfBytes, hcount]
  · rw [bytes, Item.length_listOfBytes, hcount, UInt16.ofNat_toNat, hid,
      Item.flatMap_bytes_listOfBytes hpayload, hcount, List.take_add,
      blanked_append (List.length_take_of_le hlong)]

theorem encodeInto_of_fits (header : Header) {items : List Item} {out : List UInt8}
    (hroom : headerLength + items.length * itemLength ≤ out.length)
    (hcount : items.length * itemLength ≤ maxPayload) :
    encodeInto header items out = (.ok (headerLength + items.length * itemLength),
      bytes header.sensorId items ++ out.drop (headerLength + items.length * itemLength)) := by
  have hfits : ¬ (out.length < headerLength + items.length * itemLength ∨
      maxPayload < items.length * itemLength) := by omega
  rw [encodeInto, if_neg hfits, overwrite, length_bytes]

/-- Encoding and decoding are inverse. Items that fit are written in place of the start
of a buffer, which decodes to them with anything after it, whatever length the header
gave; for others the buffer stays as it is. Bytes decode if they start with a whole
frame of whole items, and encoding the result gives that frame back with zeros for
padding; of other bytes the first thing missed is reported. -/
theorem encode_decode_inverse :
    (∀ (header : Header) (items : List Item) (out : List UInt8),
      let total := headerLength + items.length * itemLength
      let refused := out.length < total ∨ maxPayload < items.length * itemLength
      (refused → encodeInto header items out = (.error (.bufferTooSmall out.length), out)) ∧
      (¬ refused → ∃ written, encodeInto header items out = (.ok total, written) ∧
        written.length = out.length ∧ written.drop total = out.drop total ∧
        ∃ length : UInt16, length.toNat = items.length * itemLength ∧
          ∀ rest, decode (written.take total ++ rest) = .ok (⟨header.sensorId, length⟩, items))) ∧
    ∀ bs : List UInt8,
      let payload := (declared bs).toNat
      let whole := headerLength ≤ bs.length ∧ itemLength ∣ payload ∧
        headerLength + payload ≤ bs.length
      (whole → ∃ header items, decode bs = .ok (header, items) ∧
        header.length.toNat = items.length * itemLength ∧
        ∀ out, headerLength + payload ≤ out.length →
          encodeInto header items out = (.ok (headerLength + payload),
            blanked (bs.take (headerLength + payload)) ++ out.drop (headerLength + payload))) ∧
      (¬ whole → decode bs = .error
        (if bs.length < headerLength then .truncated headerLength bs.length
        else if ¬ itemLength ∣ payload then .misaligned (declared bs)
        else .truncated (headerLength + payload) bs.length)) := by
  refine ⟨fun header items out => ?_, fun bs => ?_⟩
  · intro total refused
    refine ⟨fun h => if_pos h, fun h => ?_⟩
    obtain ⟨hroom, hcount⟩ : total ≤ out.length ∧ items.length * itemLength ≤ maxPayload := by
      simpa [refused] using h
    have hfits : items.length * itemLength < 2 ^ 16 := Nat.lt_of_le_of_lt hcount (by decide)
    refine ⟨_, encodeInto_of_fits header hroom hcount, ?_, ?_,
      UInt16.ofNat (items.length * itemLength), UInt16.toNat_ofNat_of_lt' hfits, fun rest => ?_⟩
    · rw [List.length_append, length_bytes, List.length_drop]
      exact Nat.add_sub_cancel' hroom
    · exact List.drop_left' (length_bytes _ _)
    · rw [List.take_left' (length_bytes _ _), decode_bytes _ hcount]
  · intro payload whole
    by_cases hshort : bs.length < headerLength
    · have hnot : ¬ whole := fun h => Nat.not_le_of_lt hshort h.1
      exact ⟨fun h => absurd h hnot, fun _ => by rw [if_pos hshort, decode_of_short hshort]⟩
    have hlong : headerLength ≤ bs.length := Nat.le_of_not_lt hshort
    by_cases heven : itemLength ∣ payload
    · by_cases hcut : bs.length < headerLength + payload
      · have hnot : ¬ whole := fun h => Nat.not_le_of_lt hcut h.2.2
        refine ⟨fun h => absurd h hnot, fun _ => ?_⟩
        rw [if_neg hshort, if_neg (not_not_intro heven), decode_of_truncated hlong heven hcut]
      · have hwhole : headerLength + payload ≤ bs.length := Nat.le_of_not_lt hcut
        obtain ⟨id, items, hdecode, hcount, hbytes⟩ := decode_of_whole heven hwhole
        refine ⟨fun _ => ⟨_, items, hdecode, hcount, fun out hroom => ?_⟩, fun h => ?_⟩
        · have hmax : items.length * itemLength ≤ maxPayload := by
            rw [← hcount]
            exact Nat.le_of_lt_succ (declared bs).toNat_lt
          rw [encodeInto_of_fits _ (hcount ▸ hroom) hmax, hbytes, ← hcount]
        · exact absurd ⟨hlong, heven, hwhole⟩ h
    · have hnot : ¬ whole := fun h => heven h.2.1
      refine ⟨fun h => absurd h hnot, fun _ => ?_⟩
      rw [if_neg hshort, if_pos heven, decode_of_misaligned hlong heven]

/-- Padding that is not zero, and a byte after the frame. -/
theorem encode_decode_inverse_of_padded :
    let bs : List UInt8 := [7, 9, 16, 0, 1, 2, 3, 3, 3, 3, 3, 3, 4, 0, 0, 0, 0, 0, 0, 1, 255]
    let out : List UInt8 := List.replicate 22 5
    (headerLength ≤ bs.length ∧ itemLength ∣ (declared bs).toNat ∧
        headerLength + (declared bs).toNat ≤ bs.length) ∧
      ∃ header items, decode bs = .ok (header, items) ∧ encodeInto header items out =
        (.ok 20, [7, 0, 16, 0, 1, 2, 0, 0, 0, 0, 0, 0, 4, 0, 0, 0, 0, 0, 0, 1, 5, 5]) ∧
      ∀ rest, ∃ length, decode ((encodeInto header items out).2.take 20 ++ rest) =
        .ok (⟨header.sensorId, length⟩, items) := by
  intro bs out
  have hwhole : headerLength ≤ bs.length ∧ itemLength ∣ (declared bs).toNat ∧
      headerLength + (declared bs).toNat ≤ bs.length := by decide
  obtain ⟨header, items, hdecode, hcount, hencode⟩ := (encode_decode_inverse.2 bs).1 hwhole
  have hback := hencode out (by decide)
  have hone : items.length * itemLength = 16 := hcount.symm.trans (by cases hdecode; rfl)
  have hfits : ¬ (out.length < headerLength + items.length * itemLength ∨
      maxPayload < items.length * itemLength) := by
    rw [hone]
    decide
  obtain ⟨written, hwritten, -, -, length, -, hread⟩ :=
    (encode_decode_inverse.1 header items out).2 hfits
  rw [hone] at hread
  refine ⟨hwhole, header, items, hdecode, hback, fun rest => ⟨length, ?_⟩⟩
  rw [hwritten]
  exact hread rest

end Frame

end HotFire
