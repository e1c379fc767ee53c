import HotFire.Board.Converters
import Mathlib

/-! Every read of a converter bank goes to one chip, the one registered last for its chip
select, and no bus error looks like a conversion. -/

namespace HotFire

namespace BusFrame

/-- The twelve bits are those of the last two bytes above the lowest two. -/
theorem conversion_toNat (reply : BusFrame) :
    reply.conversion.toNat = (reply.second.toNat * 256 + reply.third.toNat) / 4 % 4096 := by
  have hsecond : reply.second.toNat < 256 := reply.second.toNat_lt
  have hthird : reply.third.toNat < 2 ^ 8 := reply.third.toNat_lt
  have hword : ((reply.second.toUInt16 <<< 8) ||| reply.third.toUInt16).toNat =
      reply.second.toNat * 256 + reply.third.toNat := by
    have hhigh : (reply.second.toUInt16 <<< 8).toNat = reply.second.toNat <<< 8 := by
      simp [Nat.shiftLeft_eq]
      omega
    rw [UInt16.toNat_or, hhigh, UInt8.toNat_toUInt16,
      ← Nat.shiftLeft_add_eq_or_of_lt hthird, Nat.shiftLeft_eq]
  rw [conversion, UInt16.toNat_and, UInt16.toNat_shiftRight, hword]
  exact (Nat.and_two_pow_sub_one_eq_mod _ 12).trans (by rw [Nat.shiftRight_eq_div_pow]; rfl)

theorem conversion_le (reply : BusFrame) : reply.conversion.toNat ≤ 4095 := by
  rw [conversion_toNat]
  omega

theorem conversion_ne_fault (reply : BusFrame) : reply.conversion ≠ conversionFault := by
  intro h
  have hle := reply.conversion_le
  rw [h] at hle
  exact absurd hle (by decide)

end BusFrame

namespace ConverterChip

/-- The chip after one more conversion of a channel. -/
def next (c : ConverterChip) (channel : UInt8) : ConverterChip :=
  (c.transfer (BusFrame.request channel)).2

/-- The chip after conversions of these channels. -/
def served (c : ConverterChip) (channels : List UInt8) : ConverterChip := channels.foldl next c

/-- What the script of a chip answers after `n` answers; its last line repeats. -/
def reply? (c : ConverterChip) (n : Nat) : Option BusFrame :=
  (c.replies[min n (c.replies.length - 1)]?).join

theorem transfer_reply (c : ConverterChip) (request : BusFrame) :
    (c.transfer request).1 = c.reply? 0 := by
  obtain ⟨replies, requests⟩ := c
  match replies with
  | [] => rfl
  | [reply] => rfl
  | reply :: other :: rest => rfl

theorem next_requests (c : ConverterChip) (channel : UInt8) :
    (c.next channel).requests = BusFrame.request channel :: c.requests := by
  obtain ⟨replies, requests⟩ := c
  match replies with
  | [] => rfl
  | [reply] => rfl
  | reply :: other :: rest => rfl

theorem next_reply? (c : ConverterChip) (channel : UInt8) (n : Nat) :
    (c.next channel).reply? n = c.reply? (n + 1) := by
  obtain ⟨replies, requests⟩ := c
  match replies with
  | [] => rfl
  | [reply] => simp [next, transfer, reply?]
  | reply :: other :: rest =>
    have hmin : min (n + 1) (rest.length + 1) = min n rest.length + 1 := by omega
    simp [next, transfer, reply?, hmin]

theorem served_requests (c : ConverterChip) (channels : List UInt8) :
    (c.served channels).requests = (channels.map BusFrame.request).reverse ++ c.requests := by
  induction channels generalizing c with
  | nil => rfl
  | cons channel channels ih =>
    have hrest := ih (c.next channel)
    rw [next_requests] at hrest
    simpa [served] using hrest

theorem served_reply? (c : ConverterChip) (channels : List UInt8) (n : Nat) :
    (c.served channels).reply? n = c.reply? (channels.length + n) := by
  induction channels generalizing c with
  | nil => simp [served]
  | cons channel channels ih =>
    have hrest := ih (c.next channel)
    rw [next_reply?] at hrest
    rw [List.length_cons, Nat.add_right_comm]
    exact hrest

theorem served_concat (c : ConverterChip) (channels : List UInt8) (channel : UInt8) :
    c.served (channels ++ [channel]) = (c.served channels).next channel := by
  simp [served]

end ConverterChip

namespace ConverterBank

theorem chip?_withChip (b : ConverterBank) (cs other : Pin) (chip : ConverterChip) :
    (b.withChip cs chip).chip? other = if other = cs then some chip else b.chip? other := by
  by_cases h : other = cs
  · subst h
    have hnone : (b.chips.filter (·.1 != other)).find? (·.1 == other) = none := by
      simp
    simp [withChip, chip?, List.find?_append, hnone]
  · have hkept : (b.chips.filter (·.1 != cs)).find? (·.1 == other) =
        b.chips.find? (·.1 == other) := by
      rw [List.find?_filter]
      congr 1
      funext entry
      by_cases he : entry.1 = other
      · simp [he, h]
      · simp [he]
    have hlast : (cs == other) = false := beq_eq_false_iff_ne.mpr (Ne.symm h)
    simp [withChip, chip?, List.find?_append, hkept, hlast, h]

theorem chip?_setChip (b : ConverterBank) (cs other : Pin) (chip : ConverterChip) :
    (b.setChip cs chip).chip? other =
      if other = cs then (b.chip? other).map fun _ => chip else b.chip? other := by
  obtain ⟨chips⟩ := b
  simp only [setChip, chip?]
  induction chips with
  | nil => simp
  | cons entry chips ih =>
    obtain ⟨cs', old⟩ := entry
    by_cases he : cs' = other
    · subst he
      by_cases h : cs' = cs
      · simp [h]
      · simp [h]
    · by_cases h : cs' = cs
      · subst h
        simpa [he] using ih
      · simpa [h, he] using ih

theorem keys_setChip (b : ConverterBank) (cs : Pin) (chip : ConverterChip) :
    (b.setChip cs chip).chips.map (·.1) = b.chips.map (·.1) := by
  rw [setChip, List.map_map]
  refine List.map_congr_left fun entry _ => ?_
  by_cases h : entry.1 = cs
  · simp [h]
  · simp [h]

/-- A read moves the chip on the bus by one conversion, and moves no other. -/
theorem chip?_read (b : ConverterBank) (input : ConverterInput) (other : Pin) :
    (b.read input).bank.chip? other =
      if other = input.chipSelect then (b.chip? other).map (·.next input.channel)
      else b.chip? other := by
  cases hc : b.chip? input.chipSelect with
  | none =>
    have hbank : (b.read input).bank = b := by simp [read, hc]
    by_cases h : other = input.chipSelect
    · simp [hbank, h, hc]
    · simp [hbank, h]
  | some chip =>
    have hbank : (b.read input).bank = b.setChip input.chipSelect (chip.next input.channel) := by
      cases hr : chip.transfer (BusFrame.request input.channel) with
      | mk reply moved => cases reply <;> simp [read, hc, hr, ConverterChip.next]
    rw [hbank, chip?_setChip]
    by_cases h : other = input.chipSelect
    · simp [h, hc]
    · simp [h]

theorem keys_read (b : ConverterBank) (input : ConverterInput) :
    (b.read input).bank.chips.map (·.1) = b.chips.map (·.1) := by
  cases hc : b.chip? input.chipSelect with
  | none => simp [read, hc]
  | some chip =>
    cases hr : chip.transfer (BusFrame.request input.channel) with
    | mk reply moved => cases reply <;> simp [read, hc, hr, keys_setChip]

theorem read_of_missing {b : ConverterBank} {input : ConverterInput}
    (h : b.chip? input.chipSelect = none) :
    (b.read input).requests = [] ∧ (b.read input).value = conversionFault ∧
      (b.read input).bank = b := by
  simp [read, h]

theorem read_of_chip {b : ConverterBank} {input : ConverterInput} {chip : ConverterChip}
    (h : b.chip? input.chipSelect = some chip) :
    (b.read input).requests = [BusFrame.request input.channel] ∧
      (b.read input).value = ((chip.reply? 0).map BusFrame.conversion).getD conversionFault := by
  rw [← chip.transfer_reply (BusFrame.request input.channel)]
  cases hr : chip.transfer (BusFrame.request input.channel) with
  | mk reply moved => cases reply <;> simp [read, h, hr]

theorem value_of_read (b : ConverterBank) (input : ConverterInput) :
    (b.read input).value = conversionFault ∨ (b.read input).value.toNat ≤ 4095 := by
  cases hc : b.chip? input.chipSelect with
  | none => exact .inl (read_of_missing hc).2.1
  | some chip =>
    rw [(read_of_chip hc).2]
    cases chip.reply? 0 with
    | none => exact .inl rfl
    | some reply => exact .inr reply.conversion_le

/-- Registering a chip, or reading an input. -/
inductive Call where
  | register (chipSelect : Pin) (chip : ConverterChip)
  | read (input : ConverterInput)
  deriving DecidableEq

def act (b : ConverterBank) : Call → ConverterBank
  | .register cs chip => b.withChip cs chip
  | .read input => (b.read input).bank

def after (calls : List Call) : ConverterBank := calls.foldl act empty

/-- The chip that was registered last for a chip select, and the calls since. -/
def LastRegistered (cs : Pin) (chip : ConverterChip) (since calls : List Call) : Prop :=
  ∃ before, calls = before ++ .register cs chip :: since ∧ ∀ other, .register cs other ∉ since

/-- The channels that calls read through a chip select. -/
def channelsOf (cs : Pin) (calls : List Call) : List UInt8 :=
  calls.filterMap fun
    | .register _ _ => none
    | .read input => if input.chipSelect = cs then some input.channel else none

theorem exists_lastRegistered {cs : Pin} {calls : List Call}
    (h : ∃ chip, .register cs chip ∈ calls) : ∃ chip since, LastRegistered cs chip since calls := by
  induction calls with
  | nil => simp at h
  | cons call calls ih =>
    by_cases hlater : ∃ chip, .register cs chip ∈ calls
    · obtain ⟨chip, since, before, rfl, hno⟩ := ih hlater
      exact ⟨chip, since, call :: before, rfl, hno⟩
    · obtain ⟨chip, hchip⟩ := h
      have hhead : Call.register cs chip = call :=
        (List.mem_cons.mp hchip).resolve_right fun hm => hlater ⟨chip, hm⟩
      exact ⟨chip, calls, [], by rw [hhead]; rfl, fun other hm => hlater ⟨other, hm⟩⟩

/-- While nothing is registered for a chip select, its chip serves the reads through it. -/
theorem chip?_foldl_act {cs : Pin} {calls : List Call} (hno : ∀ other, .register cs other ∉ calls)
    (b : ConverterBank) :
    (calls.foldl act b).chip? cs = (b.chip? cs).map (·.served (channelsOf cs calls)) := by
  induction calls generalizing b with
  | nil => simp [channelsOf, ConverterChip.served]
  | cons call calls ih =>
    have hrest := ih (fun other hm => hno other (List.mem_cons_of_mem _ hm)) (b.act call)
    refine hrest.trans ?_
    cases call with
    | register cs' chip =>
      have hne : cs ≠ cs' := by
        rintro rfl
        exact hno chip List.mem_cons_self
      rw [act, chip?_withChip, if_neg hne]
      rfl
    | read input =>
      rw [act, chip?_read]
      by_cases h : cs = input.chipSelect
      · have hread : channelsOf cs (.read input :: calls) =
            input.channel :: channelsOf cs calls := by simp [channelsOf, h]
        rw [if_pos h, hread, Option.map_map]
        rfl
      · have hskip : channelsOf cs (.read input :: calls) = channelsOf cs calls := by
          simp [channelsOf, Ne.symm h]
        rw [if_neg h, hskip]

theorem chip?_after_of_missing {cs : Pin} {calls : List Call}
    (hno : ∀ chip, .register cs chip ∉ calls) : (after calls).chip? cs = none :=
  chip?_foldl_act hno empty

theorem chip?_after {cs : Pin} {chip : ConverterChip} {since calls : List Call}
    (h : LastRegistered cs chip since calls) :
    (after calls).chip? cs = some (chip.served (channelsOf cs since)) := by
  obtain ⟨before, rfl, hno⟩ := h
  have hbank : after (before ++ .register cs chip :: since) =
      since.foldl act ((after before).withChip cs chip) := by
    rw [after, List.foldl_append]
    rfl
  rw [hbank, chip?_foldl_act hno, chip?_withChip, if_pos rfl]
  rfl

theorem keys_nodup (calls : List Call) : ((after calls).chips.map (·.1)).Nodup := by
  induction calls using List.reverseRecOn with
  | nil => exact List.nodup_nil
  | append_singleton calls call ih =>
    have hbank : after (calls ++ [call]) = (after calls).act call := by
      rw [after, List.foldl_append]
      rfl
    rw [hbank]
    cases call with
    | read input => rwa [act, keys_read]
    | register cs chip =>
      have hkept : (((after calls).chips.filter (·.1 != cs)).map (·.1)).Nodup :=
        ih.sublist (List.filter_sublist.map _)
      simp only [act, withChip, List.map_append, List.map_cons, List.map_nil]
      exact List.nodup_append'.mpr ⟨hkept, List.nodup_singleton cs, by simp⟩

/-- A bank holds at most one chip for a chip select. A read reaches the one registered last
there, which has served the reads through it since, with one request, and moves no other. It is
a fault when there is no such chip or its script has a bus error there; else it is twelve bits
of the reply, which are never the fault. -/
theorem read_reaches_last_registered (calls : List Call) (input : ConverterInput) :
    let b := after calls
    let r := b.read input
    (b.chips.map (·.1)).Nodup ∧ r.bank.chips.map (·.1) = b.chips.map (·.1) ∧
    (∀ other, other ≠ input.chipSelect → r.bank.chip? other = b.chip? other) ∧
    ((∀ chip, .register input.chipSelect chip ∉ calls) ∧
        r.requests = [] ∧ r.value = conversionFault ∧ r.bank = b ∨
      ∃ chip since, LastRegistered input.chipSelect chip since calls ∧
        let earlier := channelsOf input.chipSelect since
        let moved := chip.served (earlier ++ [input.channel])
        b.chip? input.chipSelect = some (chip.served earlier) ∧
        r.bank.chip? input.chipSelect = some moved ∧
        r.requests = [⟨0x18 ||| (input.channel &&& 0x07), 0, 0⟩] ∧
        moved.requests =
          ((earlier ++ [input.channel]).map BusFrame.request).reverse ++ chip.requests ∧
        (r.value = conversionFault ↔ chip.reply? earlier.length = none) ∧
        ∀ reply, chip.reply? earlier.length = some reply →
          r.value.toNat = (reply.second.toNat * 256 + reply.third.toNat) / 4 % 4096 ∧
            r.value.toNat ≤ 4095) := by
  intro b r
  have hothers : ∀ other, other ≠ input.chipSelect → r.bank.chip? other = b.chip? other :=
    fun other hne => (b.chip?_read input other).trans (if_neg hne)
  refine ⟨keys_nodup calls, b.keys_read input, hothers, ?_⟩
  by_cases hsome : ∃ chip, .register input.chipSelect chip ∈ calls
  · right
    obtain ⟨chip, since, hlast⟩ := exists_lastRegistered hsome
    let earlier := channelsOf input.chipSelect since
    have hchip : b.chip? input.chipSelect = some (chip.served earlier) := chip?_after hlast
    have hmoved : chip.served (earlier ++ [input.channel]) =
        (chip.served earlier).next input.channel := chip.served_concat earlier input.channel
    have hbank : r.bank.chip? input.chipSelect =
        some (chip.served (earlier ++ [input.channel])) := by
      rw [chip?_read, if_pos rfl, hchip, hmoved]
      rfl
    obtain ⟨hrequests, hvalue⟩ := read_of_chip hchip
    rw [chip.served_reply? earlier 0, Nat.add_zero] at hvalue
    refine ⟨chip, since, hlast, hchip, hbank, hrequests, chip.served_requests _, ?_, ?_⟩
    · rw [hvalue]
      cases hreply : chip.reply? earlier.length with
      | none => simp
      | some reply => simp [reply.conversion_ne_fault]
    · intro reply hreply
      have hconversion : r.value = reply.conversion := by
        rw [hvalue, hreply]
        rfl
      rw [hconversion]
      exact ⟨reply.conversion_toNat, reply.conversion_le⟩
  · left
    have hno : ∀ chip, .register input.chipSelect chip ∉ calls := fun chip hm => hsome ⟨chip, hm⟩
    exact ⟨hno, read_of_missing (chip?_after_of_missing hno)⟩

end ConverterBank
end HotFire
