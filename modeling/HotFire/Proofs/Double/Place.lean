import HotFire.Proofs.Double.Rounding

/-! The place of a double among all doubles, before it is packed into bits and after. Of two
doubles that are numbers one is at most the other if its place is. -/

namespace HotFire
namespace Double

open Float.Model UnpackedFloat

/-- What rounding gives: a full mantissa or the least exponent, but no bound on the exponent. -/
def Rounded : UnpackedFloat → Prop
  | .finite _ m e _ => m < 2 ^ 53 ∧ -1074 ≤ e ∧ (2 ^ 52 ≤ m ∨ e = -1074)
  | .zero _ | .infinity _ => True
  | .notANumber => False

/-- The only form of a double that is a number. -/
def Packed : UnpackedFloat → Prop
  | .finite _ m e _ => m < 2 ^ 53 ∧ -1074 ≤ e ∧ e ≤ 971 ∧ (2 ^ 52 ≤ m ∨ e = -1074)
  | .zero _ | .infinity _ => True
  | .notANumber => False

/-- The bits of a double's magnitude as a number, with its sign. -/
def placeOf : UnpackedFloat → Int
  | .finite s m e _ => s.apply ((e + 1074) * 2 ^ 52 + m)
  | .infinity s => s.apply (2047 * 2 ^ 52)
  | .zero _ | .notANumber => 0

theorem shiftToTargetExponent_eq {m : Nat} {e : Int} (he : e ≤ target m e) :
    shiftToTargetExponent .binary64 m e .exact =
      ((⟨m, false, false⟩ : ExtendedMantissa) >>> (target m e - e).toNat, target m e) := by
  have hexp : e + ((target m e - e).toNat : Int) = target m e := by omega
  rw [shiftToTargetExponent, targetExponent_eq]
  exact congrArg (_, ·) hexp

/-- A mantissa that fits stays as it is. -/
theorem shiftToTargetExponent_of_lt {q : Nat} (hq : q < 2 ^ 53) {t : Int} (ht : -1074 ≤ t) :
    shiftToTargetExponent .binary64 q t .exact = (⟨q, false, false⟩, t) := by
  have hlog : q.log2 ≤ 52 := by
    by_cases hz : q = 0
    · rw [hz]
      decide
    · have := (Nat.log2_lt hz).mpr hq
      omega
  have hshift : (target q t - t).toNat = 0 := by
    rw [target]
    omega
  rw [shiftToTargetExponent, targetExponent_eq, shiftToExponent, hshift]
  exact congrArg (_, ·) (add_zero t)

/-- A mantissa that rounding has filled up carries into the exponent. -/
theorem shiftToTargetExponent_of_carry {t : Int} (ht : -1074 ≤ t) :
    shiftToTargetExponent .binary64 (2 ^ 53) t .exact = (⟨2 ^ 52, false, false⟩, t + 1) := by
  have htarget : target (2 ^ 53) t = t + 1 := by
    rw [target, Nat.log2_two_pow]
    omega
  rw [shiftToTargetExponent_eq (by omega), htarget, add_sub_cancel_left]
  rfl

theorem roundWithAccuracy_eq {m q : Nat} {e t : Int} {r st : Bool} (he : e ≤ target m e)
    (h : shiftToTargetExponent .binary64 (halfEven m (target m e - e).toNat) (target m e) .exact =
      (⟨q, r, st⟩, t)) (s : Sign) :
    roundWithAccuracy .binary64 s m e .exact =
      if h : q = 0 then .zero s else .finite s q t (Nat.pos_of_ne_zero h) := by
  rw [roundWithAccuracy, shiftToTargetExponent_eq he]
  simp only [roundedMantissa_shiftRight, h]

theorem placeOf_roundWithAccuracy {m : Nat} (hm : m ≠ 0) {e : Int} (he : e ≤ target m e) (s : Sign) :
    Rounded (roundWithAccuracy .binary64 s m e .exact) ∧
      placeOf (roundWithAccuracy .binary64 s m e .exact) = s.apply (nearest m e) := by
  have hleast : -1074 ≤ target m e := le_max_right _ _
  have hge := le_halfEven_target hm he
  rw [nearest]
  by_cases hlt : halfEven m (target m e - e).toNat < 2 ^ 53
  · rw [roundWithAccuracy_eq he (shiftToTargetExponent_of_lt hlt hleast) s]
    by_cases hz : halfEven m (target m e - e).toNat = 0
    · have ht : target m e = -1074 := hge.resolve_left (by omega)
      rw [dif_pos hz, hz, ht]
      cases s <;> exact ⟨trivial, rfl⟩
    · rw [dif_neg hz]
      refine ⟨⟨hlt, hleast, hge⟩, congrArg s.apply ?_⟩
      push_cast
      omega
  · have hfull : halfEven m (target m e - e).toNat = 2 ^ 53 := by
      have := halfEven_target_le (m := m) e
      omega
    rw [roundWithAccuracy_eq he (hfull ▸ shiftToTargetExponent_of_carry hleast) s, hfull]
    refine ⟨⟨by decide, by omega, .inl (by decide)⟩, congrArg s.apply ?_⟩
    push_cast
    omega

theorem ofBitVec_unpackSign (s : Sign) (e : BitVec 11) (m : BitVec 52) :
    Sign.ofBitVec (unpackSign (packComponents .binary64 s e m)) = s := by
  have htop : BitVec.extractLsb' 63 1 (s.toBitVec ++ e ++ m) = s.toBitVec := by
    rw [BitVec.extractLsb'_append_eq_of_le (by decide)]
    exact BitVec.extractLsb'_append_eq_left
  refine (congrArg Sign.ofBitVec htop).trans ?_
  cases s <;> rfl

theorem toNat_one_append (m : BitVec 52) : (1#1 ++ m).toNat = 2 ^ 52 + m.toNat := by
  rw [BitVec.toNat_append, ← Nat.shiftLeft_add_eq_or_of_lt m.isLt]
  rfl

theorem unpack_infinite {b : BitVec Format.binary64.numBits} (he : unpackExponent b = -1#11)
    (hm : unpackMantissa b = 0#52) :
    unpack .binary64 b = .infinity (Sign.ofBitVec (unpackSign b)) := by
  delta UnpackedFloat.unpack
  rw [if_pos he, if_pos hm]

theorem unpack_notANumber {b : BitVec Format.binary64.numBits} (he : unpackExponent b = -1#11)
    (hm : unpackMantissa b ≠ 0#52) : unpack .binary64 b = .notANumber := by
  delta UnpackedFloat.unpack
  rw [if_pos he, if_neg hm]

theorem unpack_zero {b : BitVec Format.binary64.numBits} (he : unpackExponent b = 0#11)
    (hm : unpackMantissa b = 0#52) :
    unpack .binary64 b = .zero (Sign.ofBitVec (unpackSign b)) := by
  delta UnpackedFloat.unpack
  rw [if_neg (he ▸ by decide), if_pos he, dif_pos hm]

theorem unpack_subnormal {b : BitVec Format.binary64.numBits} (he : unpackExponent b = 0#11)
    (hm : unpackMantissa b ≠ 0#52) :
    unpack .binary64 b = .finite (Sign.ofBitVec (unpackSign b)) (unpackMantissa b).toNat (-1074)
      (Nat.pos_of_ne_zero fun hz => hm (BitVec.eq_of_toNat_eq hz)) := by
  delta UnpackedFloat.unpack
  rw [if_neg (he ▸ by decide), if_pos he, dif_neg hm]
  congr 1
  rw [he]
  rfl

theorem unpack_normal {b : BitVec Format.binary64.numBits} (he : unpackExponent b ≠ -1#11)
    (he' : unpackExponent b ≠ 0#11) :
    unpack .binary64 b = .finite (Sign.ofBitVec (unpackSign b)) (2 ^ 52 + (unpackMantissa b).toNat)
      ((unpackExponent b).toNat - 1075) (by positivity) := by
  delta UnpackedFloat.unpack
  rw [if_neg he, if_neg he']
  congr 1
  exact toNat_one_append _

theorem packed_unpack {b : BitVec Format.binary64.numBits} (h : unpack .binary64 b ≠ .notANumber) :
    Packed (unpack .binary64 b) := by
  have hmantissa : (unpackMantissa b).toNat < 2 ^ 52 := (unpackMantissa b).isLt
  have hexponent : (unpackExponent b).toNat < 2 ^ 11 := (unpackExponent b).isLt
  by_cases hall : unpackExponent b = -1#11
  · by_cases hm : unpackMantissa b = 0#52
    · rw [unpack_infinite hall hm]
      trivial
    · exact absurd (unpack_notANumber hall hm) h
  · by_cases hnone : unpackExponent b = 0#11
    · by_cases hm : unpackMantissa b = 0#52
      · rw [unpack_zero hnone hm]
        trivial
      · rw [unpack_subnormal hnone hm]
        exact ⟨by omega, by omega, by omega, .inr rfl⟩
    · have hpos : (unpackExponent b).toNat ≠ 0 := fun h => hnone (BitVec.eq_of_toNat_eq h)
      have hlt : (unpackExponent b).toNat ≠ 2047 := fun h => hall (BitVec.eq_of_toNat_eq h)
      rw [unpack_normal hall hnone]
      exact ⟨by omega, by omega, by omega, .inl (by omega)⟩

theorem finite_congr {s s' : Sign} {m m' : Nat} {e e' : Int} {hm : 0 < m} {hm' : 0 < m'}
    (hs : s = s') (h : m = m') (he : e = e') :
    UnpackedFloat.finite s m e hm = .finite s' m' e' hm' := by
  subst hs h he
  rfl

theorem unpack_packComponents_of_lt (s : Sign) {m : Nat} (hm : 0 < m) (hlt : m < 2 ^ 52) :
    unpack .binary64 (packComponents .binary64 s 0#11 (BitVec.ofNat 52 m)) =
      .finite s m (-1074) hm := by
  have hmantissa : (BitVec.ofNat 52 m).toNat = m := Nat.mod_eq_of_lt hlt
  have hne : BitVec.ofNat 52 m ≠ 0#52 := fun h => by
    rw [h] at hmantissa
    exact hm.ne hmantissa
  rw [unpack_subnormal unpackExponent_packComponents (by rwa [unpackMantissa_packComponents])]
  refine finite_congr (ofBitVec_unpackSign _ _ _) ?_ rfl
  rw [unpackMantissa_packComponents]
  exact hmantissa

theorem unpack_packComponents_of_le (s : Sign) {m : Nat} {e : Int} (hm : 0 < m) (hle : 2 ^ 52 ≤ m)
    (hlt : m < 2 ^ 53) (he : -1074 ≤ e) (he' : e ≤ 971) :
    unpack .binary64 (packComponents .binary64 s (BitVec.ofNat 11 (e + 1075).toNat)
      (BitVec.ofNat 52 m)) = .finite s m e hm := by
  have hmantissa : (BitVec.ofNat 52 m).toNat = m - 2 ^ 52 := by
    rw [BitVec.toNat_ofNat]
    omega
  have hexponent : (BitVec.ofNat 11 (e + 1075).toNat).toNat = (e + 1075).toNat := by
    rw [BitVec.toNat_ofNat]
    omega
  have hall : BitVec.ofNat 11 (e + 1075).toNat ≠ -1#11 := fun h => by
    rw [h] at hexponent
    change 2047 = _ at hexponent
    omega
  have hnone : BitVec.ofNat 11 (e + 1075).toNat ≠ 0#11 := fun h => by
    rw [h] at hexponent
    change 0 = _ at hexponent
    omega
  rw [unpack_normal (by rwa [unpackExponent_packComponents])
    (by rwa [unpackExponent_packComponents])]
  refine finite_congr (ofBitVec_unpackSign _ _ _) ?_ ?_
  · rw [unpackMantissa_packComponents]
    omega
  · rw [unpackExponent_packComponents]
    omega

/-- Packing keeps what is canonical, and makes an infinity of what is past the largest double. -/
theorem unpack_pack_finite {s : Sign} {m : Nat} {e : Int} {hm : 0 < m}
    (h : Rounded (.finite s m e hm)) :
    unpack .binary64 (UnpackedFloat.pack .binary64 (.finite s m e hm)) =
      if e ≤ 971 then .finite s m e hm else .infinity s := by
  obtain ⟨hlt, hge, hfull⟩ := h
  have hbiased : e + (Format.binary64.exponentBias : Int) + (52 : Nat) = e + 1075 := by
    rw [show Format.binary64.exponentBias = 1023 from rfl]
    omega
  delta UnpackedFloat.pack
  simp only [hbiased]
  by_cases hfit : e ≤ 971
  · rw [if_pos hfit, if_neg (by omega)]
    by_cases hle : 2 ^ 52 ≤ m
    · have hlog : m.log2 + 1 = Format.binary64.mantissaBits := by
        rw [(Nat.log2_eq_iff hm.ne').mpr ⟨hle, hlt⟩]
        rfl
      rw [if_pos hlog]
      exact unpack_packComponents_of_le s hm hle hlt hge hfit
    · have hlog : m.log2 + 1 ≠ Format.binary64.mantissaBits := by
        have := (Nat.log2_lt hm.ne').mpr (Nat.lt_of_not_le hle)
        rw [show Format.binary64.mantissaBits = 53 from rfl]
        omega
      rw [if_neg hlog, hfull.resolve_left hle]
      exact unpack_packComponents_of_lt s hm (Nat.lt_of_not_le hle)
  · rw [if_neg hfit, if_pos (by omega)]
    cases s <;> rfl

/-- The places past the infinities are theirs. -/
def clamp (p : Int) : Int := max (-(2047 * 2 ^ 52)) (min p (2047 * 2 ^ 52))

theorem unpack_pack_zero (s : Sign) :
    unpack .binary64 (UnpackedFloat.pack .binary64 (.zero s)) = .zero s := by
  cases s <;> rfl

theorem unpack_pack_infinity (s : Sign) :
    unpack .binary64 (UnpackedFloat.pack .binary64 (.infinity s)) = .infinity s := by
  cases s <;> rfl

theorem Rounded.unpack_pack {u : UnpackedFloat} (h : Rounded u) :
    unpack .binary64 (UnpackedFloat.pack .binary64 u) ≠ .notANumber ∧
      placeOf (unpack .binary64 (UnpackedFloat.pack .binary64 u)) = clamp (placeOf u) := by
  cases u with
  | notANumber => exact h.elim
  | zero s =>
    rw [unpack_pack_zero]
    exact ⟨by simp, rfl⟩
  | infinity s =>
    rw [unpack_pack_infinity]
    refine ⟨by simp, ?_⟩
    cases s <;> rfl
  | finite s m e hm =>
    rw [unpack_pack_finite h]
    obtain ⟨hlt, hge, hfull⟩ := h
    by_cases hfit : e ≤ 971
    · rw [if_pos hfit]
      refine ⟨by simp, ?_⟩
      cases s <;> simp only [placeOf, Sign.apply, clamp] <;> omega
    · rw [if_neg hfit]
      refine ⟨by simp, ?_⟩
      cases s <;> simp only [placeOf, Sign.apply, clamp] <;> omega

/-- Of two magnitudes the one with the larger exponent is larger, as no mantissa but a full one
comes with more than the least exponent. -/
theorem isLE_compare_iff {s t : Sign} {m n : Nat} {e f : Int} {hm : 0 < m} {hn : 0 < n}
    (h : Rounded (.finite s m e hm)) (h' : Rounded (.finite t n f hn)) :
    ((compare e f).then (compare m n)).isLE = true ↔
      (e + 1074) * 2 ^ 52 + m ≤ (f + 1074) * 2 ^ 52 + n := by
  obtain ⟨hlt, hge, hfull⟩ := h
  obtain ⟨hlt', hge', hfull'⟩ := h'
  rcases lt_trichotomy e f with hexp | rfl | hexp
  · rw [Int.compare_eq_lt.mpr hexp]
    exact iff_of_true rfl (by omega)
  · rw [Int.compare_eq_eq.mpr rfl, Ordering.eq_then, Nat.isLE_compare]
    omega
  · rw [Int.compare_eq_gt.mpr hexp]
    exact iff_of_false Bool.false_ne_true (by omega)

theorem Packed.rounded {u : UnpackedFloat} (h : Packed u) : Rounded u := by
  cases u with
  | finite s m e hm => exact ⟨h.1, h.2.1, h.2.2.2⟩
  | _ => exact h

theorem Packed.magnitude {s : Sign} {m : Nat} {e : Int} {hm : 0 < m}
    (h : Packed (.finite s m e hm)) :
    0 < (e + 1074) * 2 ^ 52 + m ∧ (e + 1074) * 2 ^ 52 + m < 2047 * 2 ^ 52 := by
  obtain ⟨hlt, hge, hle, -⟩ := h
  omega

theorem le_finite_iff {s t : Sign} {m n : Nat} {e f : Int} {hm : 0 < m} {hn : 0 < n}
    (hu : Packed (.finite s m e hm)) (hv : Packed (.finite t n f hn)) :
    (UnpackedFloat.finite s m e hm).le (.finite t n f hn) = true ↔
      placeOf (.finite s m e hm) ≤ placeOf (.finite t n f hn) := by
  obtain ⟨hpos, -⟩ := hu.magnitude
  obtain ⟨hpos', -⟩ := hv.magnitude
  cases s <;> cases t <;> simp only [placeOf, Sign.apply]
  · have hswap : ((compare e f).then (compare m n)).swap =
        (compare f e).then (compare n m) := by
      rw [Ordering.swap_then, Int.compare_swap, Nat.compare_swap]
    have hiff := isLE_compare_iff hv.rounded hu.rounded
    rw [← hswap] at hiff
    refine hiff.trans ?_
    omega
  · exact iff_of_true rfl (by omega)
  · exact iff_of_false Bool.false_ne_true (by omega)
  · exact isLE_compare_iff hu.rounded hv.rounded

theorem le_iff_placeOf {u v : UnpackedFloat} (hu : Packed u) (hv : Packed v) :
    u.le v = true ↔ placeOf u ≤ placeOf v := by
  cases u with
  | notANumber => exact hu.elim
  | zero s =>
    cases v with
    | notANumber => exact hv.elim
    | zero t => exact iff_of_true rfl le_rfl
    | infinity t => cases s <;> cases t <;> decide
    | finite t n f hn =>
      obtain ⟨hpos, -⟩ := hv.magnitude
      cases t <;> simp only [placeOf, Sign.apply]
      · exact iff_of_false Bool.false_ne_true (by omega)
      · exact iff_of_true rfl (by omega)
  | infinity s =>
    cases v with
    | notANumber => exact hv.elim
    | zero t => cases s <;> cases t <;> decide
    | infinity t => cases s <;> cases t <;> decide
    | finite t n f hn =>
      obtain ⟨hpos, hlt⟩ := hv.magnitude
      cases s <;> cases t <;> simp only [placeOf, Sign.apply]
      · exact iff_of_true rfl (by omega)
      · exact iff_of_true rfl (by omega)
      · exact iff_of_false Bool.false_ne_true (by omega)
      · exact iff_of_false Bool.false_ne_true (by omega)
  | finite s m e hm =>
    obtain ⟨hpos, hlt⟩ := hu.magnitude
    cases v with
    | notANumber => exact hv.elim
    | zero t =>
      cases s <;> simp only [placeOf, Sign.apply]
      · exact iff_of_true rfl (by omega)
      · exact iff_of_false Bool.false_ne_true (by omega)
    | infinity t =>
      cases s <;> cases t <;> simp only [placeOf, Sign.apply]
      · exact iff_of_false Bool.false_ne_true (by omega)
      · exact iff_of_true rfl (by omega)
      · exact iff_of_false Bool.false_ne_true (by omega)
      · exact iff_of_true rfl (by omega)
    | finite t n f hn => exact le_finite_iff hu hv

end Double
end HotFire
