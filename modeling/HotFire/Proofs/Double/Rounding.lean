import Mathlib

/-! Rounding to the nearest double. Doubles of one sign stand in the order of their bits, so that
a result is told by its place among them; the place nearest to `m * 2 ^ e` does not fall when
`m` grows. -/

namespace HotFire
namespace Double

open Float.Model UnpackedFloat

/-- `m / 2 ^ k` as the nearest whole number, of two as near the even one. -/
def halfEven (m k : Nat) : Nat :=
  if 2 * (m % 2 ^ k) < 2 ^ k then m / 2 ^ k
  else if 2 ^ k < 2 * (m % 2 ^ k) then m / 2 ^ k + 1
  else m / 2 ^ k + m / 2 ^ k % 2

theorem halfEven_mul_pow (m k j : Nat) : halfEven (m * 2 ^ j) (k + j) = halfEven m k := by
  have hj : 0 < 2 ^ j := Nat.two_pow_pos j
  have hquot : m * 2 ^ j / 2 ^ (k + j) = m / 2 ^ k := by
    rw [pow_add, Nat.mul_div_mul_right _ _ hj]
  have hrem : m * 2 ^ j % 2 ^ (k + j) = m % 2 ^ k * 2 ^ j := by
    rw [pow_add, Nat.mul_mod_mul_right]
  have hlt : 2 * (m % 2 ^ k * 2 ^ j) < 2 ^ (k + j) ↔ 2 * (m % 2 ^ k) < 2 ^ k := by
    rw [pow_add, ← Nat.mul_assoc, Nat.mul_lt_mul_right hj]
  have hgt : 2 ^ (k + j) < 2 * (m % 2 ^ k * 2 ^ j) ↔ 2 ^ k < 2 * (m % 2 ^ k) := by
    rw [pow_add, ← Nat.mul_assoc, Nat.mul_lt_mul_right hj]
  simp only [halfEven, hquot, hrem, hlt, hgt]

theorem halfEven_zero (m : Nat) : halfEven m 0 = m := by
  simp [halfEven, Nat.mod_one]

theorem halfEven_mono {m n : Nat} (h : m ≤ n) (k : Nat) : halfEven m k ≤ halfEven n k := by
  have hquot : m / 2 ^ k ≤ n / 2 ^ k := Nat.div_le_div_right h
  have hm := Nat.div_add_mod m (2 ^ k)
  have hn := Nat.div_add_mod n (2 ^ k)
  rcases Nat.lt_or_eq_of_le hquot with hlt | heq
  · -- a larger quotient is past anything the smaller one rounds to
    simp only [halfEven]
    split_ifs <;> omega
  · have hrem : m % 2 ^ k ≤ n % 2 ^ k := by
      rw [heq] at hm
      omega
    simp only [halfEven, heq]
    split_ifs <;> omega

theorem le_halfEven {c m k : Nat} (h : c * 2 ^ k ≤ m) : c ≤ halfEven m k := by
  have hself := halfEven_mul_pow c 0 k
  rw [Nat.zero_add, halfEven_zero] at hself
  exact hself ▸ halfEven_mono h k

theorem halfEven_le {c m k : Nat} (h : m ≤ c * 2 ^ k) : halfEven m k ≤ c := by
  have hself := halfEven_mul_pow c 0 k
  rw [Nat.zero_add, halfEven_zero] at hself
  exact hself ▸ halfEven_mono h k

/-- What `k` shifts keep of a mantissa: whether what they drop is half or more, and whether it is
neither nothing nor half. -/
theorem shiftRight_eq (m k : Nat) :
    (⟨m, false, false⟩ : ExtendedMantissa) >>> k =
      ⟨m / 2 ^ k, decide (2 ^ k ≤ 2 * (m % 2 ^ k)),
        decide (m % 2 ^ k ≠ 0 ∧ 2 * (m % 2 ^ k) ≠ 2 ^ k)⟩ := by
  induction k with
  | zero => simp [HShiftRight.hShiftRight, Nat.repeat, Nat.mod_one]
  | succ k ih =>
    change ((⟨m, false, false⟩ : ExtendedMantissa) >>> k).shiftRightOne = _
    have hlt : m % 2 ^ k < 2 ^ k := Nat.mod_lt _ (Nat.two_pow_pos k)
    have hrem : m % 2 ^ (k + 1) = m % 2 ^ k + 2 ^ k * (m / 2 ^ k % 2) := Nat.mod_pow_succ
    have hquot : m / 2 ^ k / 2 = m / 2 ^ (k + 1) := by rw [Nat.div_div_eq_div_mul, pow_succ]
    have hdouble : (2 : Nat) ^ (k + 1) = 2 * 2 ^ k := by rw [pow_succ, Nat.mul_comm]
    rw [ih]
    simp only [ExtendedMantissa.shiftRightOne, hquot, hrem, ExtendedMantissa.mk.injEq, true_and]
    -- the last bit of the quotient becomes the half
    have hhalf : m / 2 ^ k % 2 ≠ 0 ↔ 2 ^ (k + 1) ≤ 2 * (m % 2 ^ k + 2 ^ k * (m / 2 ^ k % 2)) := by
      rcases Nat.mod_two_eq_zero_or_one (m / 2 ^ k) with hbit | hbit <;> rw [hbit] <;> omega
    have hrest : (2 ^ k ≤ 2 * (m % 2 ^ k) ∨ m % 2 ^ k ≠ 0 ∧ 2 * (m % 2 ^ k) ≠ 2 ^ k) ↔
        m % 2 ^ k + 2 ^ k * (m / 2 ^ k % 2) ≠ 0 ∧
          2 * (m % 2 ^ k + 2 ^ k * (m / 2 ^ k % 2)) ≠ 2 ^ (k + 1) := by
      rcases Nat.mod_two_eq_zero_or_one (m / 2 ^ k) with hbit | hbit <;> rw [hbit] <;> omega
    constructor
    · rw [Bool.eq_iff_iff, bne_iff_ne, decide_eq_true_eq]
      exact hhalf
    · rw [Bool.eq_iff_iff, Bool.or_eq_true, decide_eq_true_eq, decide_eq_true_eq, decide_eq_true_eq]
      exact hrest

theorem roundedMantissa_shiftRight (m k : Nat) :
    ((⟨m, false, false⟩ : ExtendedMantissa) >>> k).roundedMantissa = halfEven m k := by
  have hpos : 0 < 2 ^ k := Nat.two_pow_pos k
  rw [shiftRight_eq, halfEven]
  rcases lt_trichotomy (2 * (m % 2 ^ k)) (2 ^ k) with h | h | h
  · have hround : ¬ 2 ^ k ≤ 2 * (m % 2 ^ k) := by omega
    rw [if_pos h, decide_eq_false hround]
    by_cases hrest : m % 2 ^ k ≠ 0 ∧ 2 * (m % 2 ^ k) ≠ 2 ^ k
    · rw [decide_eq_true hrest]
      rfl
    · rw [decide_eq_false hrest]
      rfl
  · have hrest : ¬ (m % 2 ^ k ≠ 0 ∧ 2 * (m % 2 ^ k) ≠ 2 ^ k) := by omega
    rw [if_neg h.not_lt, if_neg h.symm.not_lt, decide_eq_true h.symm.le, decide_eq_false hrest]
    rfl
  · have hrest : m % 2 ^ k ≠ 0 ∧ 2 * (m % 2 ^ k) ≠ 2 ^ k := by omega
    rw [if_neg h.not_gt, if_pos h, decide_eq_true h.le, decide_eq_true hrest]
    rfl

/-- The exponent at which `m * 2 ^ e` has the mantissa of a double, or the least one. -/
def target (m : Nat) (e : Int) : Int := max (m.log2 + e - 52) (-1074)

theorem targetExponent_eq (m : Nat) (e : Int) :
    Format.binary64.targetExponent (totalExponent m e) = target m e := by
  simp only [Format.targetExponent, totalExponent, Format.mantissaBits, Format.minExponent, target]
  norm_num
  omega

theorem log2_mul_pow {m : Nat} (hm : m ≠ 0) (j : Nat) : (m * 2 ^ j).log2 = m.log2 + j := by
  apply (Nat.log2_eq_iff (by positivity)).mpr
  have hself := (Nat.log2_eq_iff hm).mp rfl
  rw [Nat.add_right_comm, pow_add, pow_add]
  exact ⟨Nat.mul_le_mul_right _ hself.1, Nat.mul_lt_mul_of_pos_right hself.2 (by positivity)⟩

theorem target_mul_pow {m : Nat} (hm : m ≠ 0) (e : Int) (j : Nat) :
    target (m * 2 ^ j) (e - j) = target m e := by
  rw [target, target, log2_mul_pow hm]
  push_cast
  omega

/-- The place of the double nearest to `m * 2 ^ e`, were there no largest one. -/
def nearest (m : Nat) (e : Int) : Nat :=
  (target m e + 1074).toNat * 2 ^ 52 + halfEven m (target m e - e).toNat

theorem nearest_mul_pow {m : Nat} (hm : m ≠ 0) {e : Int} (he : e ≤ target m e) (j : Nat) :
    nearest (m * 2 ^ j) (e - j) = nearest m e := by
  have hshift : (target m e - (e - j)).toNat = (target m e - e).toNat + j := by omega
  rw [nearest, target_mul_pow hm, hshift, halfEven_mul_pow, nearest]

theorem halfEven_target_le {m : Nat} (e : Int) :
    halfEven m (target m e - e).toNat ≤ 2 ^ 53 := by
  apply halfEven_le
  have hm : m < 2 ^ (m.log2 + 1) := Nat.lt_log2_self
  have hexp : m.log2 + 1 ≤ 53 + (target m e - e).toNat := by
    rw [target]
    omega
  rw [← pow_add]
  exact (hm.trans_le (Nat.pow_le_pow_right (by decide) hexp)).le

theorem le_halfEven_target {m : Nat} (hm : m ≠ 0) {e : Int} (he : e ≤ target m e) :
    2 ^ 52 ≤ halfEven m (target m e - e).toNat ∨ target m e = -1074 := by
  by_cases hleast : target m e = -1074
  · exact .inr hleast
  · refine .inl (le_halfEven ?_)
    have hexp : m.log2 = 52 + (target m e - e).toNat := by
      rw [target] at he hleast ⊢
      omega
    rw [← pow_add, ← hexp]
    exact Nat.log2_self_le hm

theorem nearest_mono {m n : Nat} (hm : m ≠ 0) (h : m ≤ n) {e : Int} (he : e ≤ -1074) :
    nearest m e ≤ nearest n e := by
  have hlog : m.log2 ≤ n.log2 :=
    (Nat.le_log2 (by omega)).mpr ((Nat.log2_self_le hm).trans h)
  have htarget : target m e ≤ target n e := by
    rw [target, target]
    omega
  rcases lt_or_eq_of_le htarget with hlt | heq
  · -- the exponent of the larger one is higher, so it is past all mantissas of the smaller one's
    have hsmall := halfEven_target_le (m := m) e
    have hlarge := le_halfEven_target (m := n) (e := e) (by omega) (by rw [target]; omega)
    have hleast : -1074 ≤ target m e := le_max_right _ _
    rw [nearest, nearest]
    omega
  · have hhalf := halfEven_mono h (target n e - e).toNat
    rw [nearest, nearest, heq]
    omega

/-- The place of the double nearest to `n * 2 ^ e`, with the sign of `n`. -/
def nearestInt (n e : Int) : Int := n.sign * nearest n.natAbs e

theorem nearestInt_zero (e : Int) : nearestInt 0 e = 0 := by
  rw [nearestInt, Int.sign_zero, zero_mul]

theorem nearestInt_apply (s : Sign) {m : Nat} (hm : m ≠ 0) (e : Int) :
    nearestInt (s.apply m) e = s.apply (nearest m e) := by
  cases s with
  | negative => simp [nearestInt, Sign.apply, Int.sign_natCast_of_ne_zero hm]
  | positive => simp [nearestInt, Sign.apply, Int.sign_natCast_of_ne_zero hm]

theorem nearestInt_mono {n n' : Int} (h : n ≤ n') {e : Int} (he : e ≤ -1074) :
    nearestInt n e ≤ nearestInt n' e := by
  rcases lt_trichotomy n 0 with hn | rfl | hn
  · rcases lt_trichotomy n' 0 with hn' | rfl | hn'
    · have hmono := nearest_mono (m := n'.natAbs) (n := n.natAbs) (by omega) (by omega) he
      rw [nearestInt, nearestInt, Int.sign_eq_neg_one_of_neg hn, Int.sign_eq_neg_one_of_neg hn']
      omega
    · rw [nearestInt, nearestInt, Int.sign_eq_neg_one_of_neg hn, Int.sign_zero]
      omega
    · rw [nearestInt, nearestInt, Int.sign_eq_neg_one_of_neg hn, Int.sign_eq_one_of_pos hn']
      omega
  · rcases h.lt_or_eq with hn' | rfl
    · rw [nearestInt, nearestInt, Int.sign_zero, Int.sign_eq_one_of_pos hn']
      omega
    · exact le_rfl
  · have hmono := nearest_mono (m := n.natAbs) (n := n'.natAbs) (by omega) (by omega) he
    rw [nearestInt, nearestInt, Int.sign_eq_one_of_pos hn, Int.sign_eq_one_of_pos (by omega)]
    omega

end Double
end HotFire
