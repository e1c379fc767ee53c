import HotFire.Json.Number
import Mathlib.Data.List.DropRight
import Mathlib.Tactic.SplitIfs

/-! The numbers that are written are well formed, and a natural number reads back. -/

namespace HotFire

/-- At least one digit, and nothing but digits. -/
def AllDigits (cs : List Char) : Prop := cs ≠ [] ∧ ∀ c ∈ cs, c.isDigit = true

theorem AllDigits.append {cs ds : List Char} (h : AllDigits cs)
    (hds : ∀ c ∈ ds, c.isDigit = true) : AllDigits (cs ++ ds) := by
  refine ⟨List.append_ne_nil_of_left_ne_nil h.1 ds, fun c hc => ?_⟩
  exact (List.mem_append.mp hc).elim (h.2 c) (hds c)

theorem AllDigits.take {cs : List Char} (h : AllDigits cs) {n : Nat} (hn : n ≠ 0) :
    AllDigits (cs.take n) :=
  ⟨by simpa [List.take_eq_nil_iff, hn] using h.1, fun c hc => h.2 c (List.mem_of_mem_take hc)⟩

theorem AllDigits.head?_append {cs : List Char} (h : AllDigits cs) (ds : List Char) :
    (cs ++ ds).head? = cs.head? := by
  cases cs with
  | nil => exact absurd rfl h.1
  | cons c cs => rfl

theorem AllDigits.head?_ne {ds : List Char} (h : AllDigits ds) (rest : List Char) {c : Char}
    (hc : c.isDigit = false) : (ds ++ rest).head? ≠ some c := by
  rw [h.head?_append]
  intro hd
  rw [h.2 c (List.mem_of_head? hd)] at hc
  cases hc

theorem isDigit_of_mem_zeros {n : Nat} {c : Char} (hc : c ∈ List.replicate n '0') :
    c.isDigit = true := by
  rw [List.eq_of_mem_replicate hc]
  rfl

theorem allDigits_toDigits (n : Nat) : AllDigits (Nat.toDigits 10 n) :=
  ⟨Nat.toDigits_ne_nil, fun _ hc => Nat.isDigit_of_mem_toDigits (by decide) (by decide) hc⟩

/-- No zero stands in front of other digits. -/
def NoLeadingZero (cs : List Char) : Prop := cs.head? = some '0' → cs = ['0']

theorem toDigits_head_ne_zero {n : Nat} (hn : n ≠ 0) : (Nat.toDigits 10 n).head? ≠ some '0' := by
  induction n using Nat.strongRecOn with
  | ind n ih =>
    by_cases hlt : n < 10
    · rw [Nat.toDigits_of_lt_base hlt]
      simpa [Nat.digitChar_eq_zero] using hn
    · have hdiv : n / 10 ≠ 0 := by omega
      rw [Nat.toDigits_of_base_le (by decide) (Nat.le_of_not_lt hlt),
        (allDigits_toDigits _).head?_append]
      exact ih (n / 10) (by omega) hdiv

theorem noLeadingZero_toDigits (n : Nat) : NoLeadingZero (Nat.toDigits 10 n) := by
  intro h
  by_cases hn : n = 0
  · rw [hn]
    rfl
  · exact absurd h (toDigits_head_ne_zero hn)

open Float.Model UnpackedFloat in
/-- The model of a double is finite unless all bits of its exponent are set. -/
theorem isFinite_unpack (b : BitVec Format.binary64.numBits) :
    (UnpackedFloat.unpack .binary64 b).isFinite = true ↔ unpackExponent b ≠ -1#11 := by
  delta UnpackedFloat.unpack
  by_cases hexponent : unpackExponent b = -1#11
  · refine iff_of_false ?_ (not_not_intro hexponent)
    rw [if_pos hexponent]
    by_cases hmantissa : unpackMantissa b = 0#_
    · rw [if_pos hmantissa]
      exact Bool.false_ne_true
    · rw [if_neg hmantissa]
      exact Bool.false_ne_true
  · refine iff_of_true ?_ hexponent
    rw [if_neg hexponent]
    by_cases hzero : unpackExponent b = 0#11
    · rw [if_pos hzero]
      by_cases hmantissa : unpackMantissa b = 0#_
      · rw [dif_pos hmantissa]
        rfl
      · rw [dif_neg hmantissa]
        rfl
    · rw [if_neg hzero]
      rfl

open Float.Model UnpackedFloat in
/-- The eleven bits of a double's exponent. -/
theorem unpackExponent_toNat (x : Float) :
    (@unpackExponent .binary64 x.toBits.toBitVec).toNat =
      x.toBits.toNat / Nat.pow 2 52 % Nat.pow 2 11 := by
  simp [unpackExponent, BitVec.extractLsb, Nat.shiftRight_eq_div_pow]

open Float.Model UnpackedFloat in
/-- Only infinities and what is no number have all bits of the exponent set. -/
theorem isFinite_iff (x : Float) :
    x.isFinite = true ↔ x.toBits.toNat / Nat.pow 2 52 % Nat.pow 2 11 ≠ 2047 := by
  have hset : @unpackExponent .binary64 x.toBits.toBitVec = -1#11 ↔
      (@unpackExponent .binary64 x.toBits.toBitVec).toNat = 2047 := by
    rw [← BitVec.toNat_inj]
    rfl
  rw [← unpackExponent_toNat, ne_eq, ← hset]
  exact isFinite_unpack x.toBits.toBitVec

theorem Binary.ofFloat_finite_iff (x : Float) :
    (∃ d, Binary.ofFloat x = .finite d) ↔ x.isFinite = true := by
  rw [isFinite_iff, Binary.ofFloat, Binary.ofBits]
  simp only [beq_iff_eq]
  split_ifs <;> simp_all

namespace JsonNumber

/-- What the grammar asks of a number. -/
structure WellFormed (n : JsonNumber) : Prop where
  whole : AllDigits n.whole
  lead : NoLeadingZero n.whole
  fraction : ∀ c ∈ n.fraction, c.isDigit = true
  exponent : ∀ e, n.exponent = some e → AllDigits e.digits

theorem ofNat_wellFormed (n : Nat) : (ofNat n).WellFormed where
  whole := allDigits_toDigits n
  lead := noLeadingZero_toDigits n
  fraction := by simp [ofNat]
  exponent := by simp [ofNat]

@[simp] theorem ofNat_natural? (n : Nat) : (ofNat n).natural? = some n := by
  simp [natural?, ofNat, isWhole]

theorem layout_wellFormed {digits : List Char} (hd : AllDigits digits) {point : Int}
    (hlead : digits.head? = some '0' → digits = ['0'] ∧ point = 1) (negative : Bool) :
    (layout negative digits point).WellFormed := by
  have hzero : AllDigits ['0'] := ⟨by simp, by simp⟩
  rw [layout]
  split_ifs with hexp hsmall hlong
  · refine ⟨hd.take (by decide), fun hz => ?_, fun c hc => hd.2 c (List.mem_of_mem_drop hc), ?_⟩
    · obtain ⟨rfl, rfl⟩ := hlead (by rwa [List.head?_take, if_neg (by decide)] at hz)
      rfl
    · rintro e ⟨⟩
      exact allDigits_toDigits _
  · refine ⟨hzero, fun _ => rfl, fun c hc => ?_, by simp⟩
    exact (List.mem_append.mp hc).elim isDigit_of_mem_zeros (hd.2 c)
  · refine ⟨hd.append fun c hc => isDigit_of_mem_zeros hc, fun hz => ?_, by simp, by simp⟩
    rw [hd.head?_append] at hz
    obtain ⟨rfl, rfl⟩ := hlead hz
    rfl
  · have hpos : point.toNat ≠ 0 := by omega
    refine ⟨hd.take hpos, fun hz => ?_, fun c hc => hd.2 c (List.mem_of_mem_drop hc), by simp⟩
    obtain ⟨rfl, rfl⟩ := hlead (by rwa [List.head?_take, if_neg hpos] at hz)
    rfl

/-- The digits that are written of a number above zero: those before its last zeros. -/
theorem allDigits_trimmed {n : Nat} (hn : n ≠ 0) :
    AllDigits ((Nat.toDigits 10 n).rdropWhile (· == '0')) ∧
      ((Nat.toDigits 10 n).rdropWhile (· == '0')).head? ≠ some '0' := by
  have hhead := toDigits_head_ne_zero hn
  have hpre := List.rdropWhile_prefix (· == '0') (Nat.toDigits 10 n)
  have hne : (Nat.toDigits 10 n).rdropWhile (· == '0') ≠ [] := by
    intro hnil
    obtain ⟨d, ds, hds⟩ := List.exists_cons_of_ne_nil (Nat.toDigits_ne_nil (n := n) (b := 10))
    have hall := List.rdropWhile_eq_nil_iff.mp hnil d (by simp [hds])
    exact hhead (by rw [hds, eq_of_beq hall]; rfl)
  have htrim : AllDigits ((Nat.toDigits 10 n).rdropWhile (· == '0')) :=
    ⟨hne, fun c hc => (allDigits_toDigits n).2 c (hpre.subset hc)⟩
  obtain ⟨zeros, hzeros⟩ := hpre
  refine ⟨htrim, ?_⟩
  rwa [← htrim.head?_append zeros, hzeros]

theorem ofFloat?_wellFormed {x : Float} {n : JsonNumber} (h : ofFloat? x = some n) :
    n.WellFormed := by
  rw [ofFloat?] at h
  split at h
  case h_2 => cases h
  case h_1 d _ =>
    simp only at h
    split at h
    · cases h
      exact layout_wellFormed ⟨by simp, by simp⟩ (fun _ => ⟨rfl, rfl⟩) d.negative
    · rename_i hs
      cases h
      obtain ⟨hdigits, hhead⟩ := allDigits_trimmed (n := d.shortest.digits) (by simpa using hs)
      exact layout_wellFormed hdigits (fun hz => absurd hz hhead) d.negative

/-- A number is written for the finite doubles, and for no other. -/
theorem ofFloat?_isSome (x : Float) : (ofFloat? x).isSome = x.isFinite := by
  rw [Bool.eq_iff_iff, ← Binary.ofFloat_finite_iff, ofFloat?]
  split
  case h_1 d hd =>
    refine ⟨fun _ => ⟨d, hd⟩, fun _ => ?_⟩
    simp only
    split <;> rfl
  case h_2 hno => exact ⟨fun h => absurd h (by simp), fun ⟨d, hd⟩ => (hno d hd).elim⟩

end JsonNumber

end HotFire
