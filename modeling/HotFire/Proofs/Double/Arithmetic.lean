import HotFire.Proofs.Double.Place

/-! Where sums and products are rounded to. A finite double is a whole number of units, and the place
of a sum or product is the one nearest to the exact result. -/

namespace HotFire
namespace Double

open Float.Model UnpackedFloat

/-- A finite double as a whole number of least doubles. -/
def unitsOf : UnpackedFloat → Int
  | .finite s m e _ => s.apply (m * 2 ^ (e + 1074).toNat : Nat)
  | .zero _ | .infinity _ | .notANumber => 0

theorem Rounded.target_eq {s : Sign} {m : Nat} {e : Int} {hm : 0 < m}
    (h : Rounded (.finite s m e hm)) : target m e = e := by
  obtain ⟨hlt, hge, hfull⟩ := h
  have hlog := (Nat.log2_lt hm.ne').mpr hlt
  rw [target]
  rcases hfull with hle | rfl
  · have := (Nat.le_log2 hm.ne').mpr hle
    omega
  · omega

theorem nearest_units {m : Nat} (hm : m ≠ 0) {e : Int} (he : e ≤ target m e) (hge : -1074 ≤ e) :
    nearest (m * 2 ^ (e + 1074).toNat) (-1074) = nearest m e := by
  have hscale : (-1074 : Int) = e - (e + 1074).toNat := by omega
  rw [hscale]
  exact nearest_mul_pow hm he _

/-- What has the form of a double already is its own nearest one. -/
theorem Rounded.nearest_eq {s : Sign} {m : Nat} {e : Int} {hm : 0 < m}
    (h : Rounded (.finite s m e hm)) :
    (nearest (m * 2 ^ (e + 1074).toNat) (-1074) : Int) = (e + 1074) * 2 ^ 52 + m := by
  have htarget := h.target_eq
  obtain ⟨-, hge, -⟩ := h
  rw [nearest_units hm.ne' htarget.ge hge, nearest, htarget, sub_self, Int.toNat_zero,
    halfEven_zero]
  push_cast
  omega

theorem placeOf_round {m : Nat} (hm : m ≠ 0) {e : Int} (he : -1074 ≤ e) (s : Sign) :
    Rounded (UnpackedFloat.round .binary64 s m e) ∧
      placeOf (UnpackedFloat.round .binary64 s m e) =
        nearestInt (s.apply (m * 2 ^ (e + 1074).toNat : Nat)) (-1074) := by
  let k := (e - target m e).toNat
  have hleast : -1074 ≤ target m e := le_max_right _ _
  have htarget : target (m * 2 ^ k) (e - k) = target m e := target_mul_pow hm e k
  have hm' : m * 2 ^ k ≠ 0 := by positivity
  have hround : UnpackedFloat.round .binary64 s m e =
      roundWithAccuracy .binary64 s (m * 2 ^ k) (e - k) .exact := by
    rw [UnpackedFloat.round, targetExponent_eq, ← Nat.shiftLeft_eq]
    rfl
  have hscale : m * 2 ^ (e + 1074).toNat = m * 2 ^ k * 2 ^ (e - k + 1074).toNat := by
    rw [Nat.mul_assoc, ← pow_add]
    congr 2
    omega
  obtain ⟨hrounded, hplace⟩ := placeOf_roundWithAccuracy hm' (e := e - k) (by omega) s
  rw [hround]
  refine ⟨hrounded, hplace.trans ?_⟩
  rw [hscale, nearestInt_apply s (by positivity), nearest_units hm' (by omega) (by omega)]

theorem apply_mul (s : Sign) (m k : Nat) : s.apply m * k = s.apply (m * k : Nat) := by
  cases s <;> simp [Sign.apply]

theorem placeOf_normalize {n : Int} {e : Int} (he : -1074 ≤ e) (s : Sign) :
    Rounded (UnpackedFloat.normalize .binary64 n e s) ∧
      placeOf (UnpackedFloat.normalize .binary64 n e s) =
        nearestInt (n * (2 ^ (e + 1074).toNat : Nat)) (-1074) := by
  rcases lt_trichotomy n 0 with hn | rfl | hn
  · have hnat : n = Sign.negative.apply ((-n).toNat : Nat) := by
      rw [Sign.apply]
      omega
    rw [UnpackedFloat.normalize, Int.compare_eq_lt.mpr hn]
    conv in (n * _) => rw [hnat, apply_mul]
    exact placeOf_round (by omega) he .negative
  · rw [UnpackedFloat.normalize, Int.compare_eq_eq.mpr rfl, zero_mul]
    exact ⟨trivial, rfl⟩
  · have hnat : n = Sign.positive.apply (n.toNat : Nat) := by
      rw [Sign.apply]
      omega
    rw [UnpackedFloat.normalize, Int.compare_eq_gt.mpr hn]
    conv in (n * _) => rw [hnat, apply_mul]
    exact placeOf_round (by omega) he .positive

/-- Magnitudes compare as their places do. -/
theorem units_le_of_magnitude_le {s t : Sign} {m n : Nat} {e f : Int} {hm : 0 < m} {hn : 0 < n}
    (hu : Packed (.finite s m e hm)) (hv : Packed (.finite t n f hn))
    (h : (e + 1074) * 2 ^ 52 + m ≤ (f + 1074) * 2 ^ 52 + n) :
    m * 2 ^ (e + 1074).toNat ≤ n * 2 ^ (f + 1074).toNat := by
  obtain ⟨hlt, hge, -, hfull⟩ := hu
  obtain ⟨hlt', hge', -, hfull'⟩ := hv
  rcases lt_trichotomy e f with hexp | rfl | hexp
  · have hfull : 2 ^ 52 ≤ n := hfull'.resolve_right (by omega)
    have hpow : (f + 1074).toNat = (e + 1074).toNat + 1 + (f - e - 1).toNat := by omega
    calc m * 2 ^ (e + 1074).toNat
        ≤ 2 ^ 53 * 2 ^ (e + 1074).toNat := Nat.mul_le_mul_right _ hlt.le
      _ = 2 ^ 52 * 2 ^ ((e + 1074).toNat + 1) := by ring
      _ ≤ 2 ^ 52 * 2 ^ (f + 1074).toNat := by
          rw [hpow]
          exact Nat.mul_le_mul_left _ (Nat.pow_le_pow_right (by decide) (Nat.le_add_right _ _))
      _ ≤ n * 2 ^ (f + 1074).toNat := Nat.mul_le_mul_right _ hfull
  · exact Nat.mul_le_mul_right _ (by omega)
  · rcases hfull with hfull | rfl <;> omega

theorem unitsOf_mono {u v : UnpackedFloat} (hu : Packed u) (hv : Packed v) (hf : u.isFinite = true)
    (hf' : v.isFinite = true) (h : placeOf u ≤ placeOf v) : unitsOf u ≤ unitsOf v := by
  cases u with
  | notANumber | infinity => cases hf
  | zero s =>
    cases v with
    | notANumber | infinity => cases hf'
    | zero t => exact le_rfl
    | finite t n f hn =>
      obtain ⟨hpos, -⟩ := hv.magnitude
      cases t <;> simp only [placeOf, unitsOf, Sign.apply] at h ⊢ <;> omega
  | finite s m e hm =>
    obtain ⟨hpos, -⟩ := hu.magnitude
    cases v with
    | notANumber | infinity => cases hf'
    | zero t => cases s <;> simp only [placeOf, unitsOf, Sign.apply] at h ⊢ <;> omega
    | finite t n f hn =>
      obtain ⟨hpos', -⟩ := hv.magnitude
      cases s <;> cases t <;> simp only [placeOf, unitsOf, Sign.apply] at h ⊢
      · have := units_le_of_magnitude_le hv hu (by omega)
        omega
      · omega
      · omega
      · have := units_le_of_magnitude_le hu hv h
        omega

theorem Rounded.place_eq {s : Sign} {m : Nat} {e : Int} {hm : 0 < m}
    (h : Rounded (.finite s m e hm)) :
    placeOf (.finite s m e hm) = nearestInt (unitsOf (.finite s m e hm)) (-1074) := by
  rw [unitsOf, nearestInt_apply s (by positivity), h.nearest_eq, placeOf]

theorem decreaseExponent_eq (s : Sign) (m : Nat) {e t : Int} (h : t ≤ e) (ht : -1074 ≤ t) :
    s.apply (decreaseExponent m e t).1 * (2 ^ (t + 1074).toNat : Nat) =
      s.apply (m * 2 ^ (e + 1074).toNat : Nat) := by
  have hpow : (e + 1074).toNat = (e - t).toNat + (t + 1074).toNat := by omega
  rw [decreaseExponent, apply_mul, Nat.shiftLeft_eq, Nat.mul_assoc, ← pow_add, hpow]

theorem placeOf_add {u v : UnpackedFloat} (hu : Packed u) (hv : Packed v) (hf : u.isFinite = true)
    (hf' : v.isFinite = true) :
    Rounded (UnpackedFloat.add .binary64 u v) ∧
      placeOf (UnpackedFloat.add .binary64 u v) = nearestInt (unitsOf u + unitsOf v) (-1074) := by
  cases u with
  | notANumber | infinity => cases hf
  | zero s =>
    cases v with
    | notANumber | infinity => cases hf'
    | zero t => cases s <;> cases t <;> exact ⟨trivial, rfl⟩
    | finite t n f hn =>
      change Rounded (.finite t n f hn) ∧ placeOf (.finite t n f hn) = nearestInt (0 + _) _
      rw [zero_add]
      exact ⟨hv.rounded, hv.rounded.place_eq⟩
  | finite s m e hm =>
    cases v with
    | notANumber | infinity => cases hf'
    | zero t =>
      change Rounded (.finite s m e hm) ∧ placeOf (.finite s m e hm) = nearestInt (_ + 0) _
      rw [add_zero]
      exact ⟨hu.rounded, hu.rounded.place_eq⟩
    | finite t n f hn =>
      have hge : -1074 ≤ min e f := le_min hu.2.1 hv.2.1
      have hsum := placeOf_normalize hge .positive
        (n := s.apply (decreaseExponent m e (min e f)).1 + t.apply (decreaseExponent n f (min e f)).1)
      rw [add_mul, decreaseExponent_eq s m (min_le_left e f) hge,
        decreaseExponent_eq t n (min_le_right e f) hge] at hsum
      exact hsum

theorem le_target_mul {s t : Sign} {m n : Nat} {e f : Int} {hm : 0 < m} {hn : 0 < n}
    (hu : Packed (.finite s m e hm)) (hv : Packed (.finite t n f hn)) :
    e + f ≤ target (m * n) (e + f) := by
  have hm1 : m ≤ m * n := Nat.le_mul_of_pos_right m hn
  have hn1 : n ≤ m * n := Nat.le_mul_of_pos_left n hm
  obtain ⟨-, -, -, hfull⟩ := hu
  obtain ⟨-, -, -, hfull'⟩ := hv
  by_cases hprod : 2 ^ 52 ≤ m * n
  · have hlog := (Nat.le_log2 (by omega)).mpr hprod
    rw [target]
    omega
  · have he : e = -1074 := hfull.resolve_left (by omega)
    have hf : f = -1074 := hfull'.resolve_left (by omega)
    rw [target]
    omega

theorem apply_mul_apply (s t : Sign) (m n : Nat) :
    s.apply m * t.apply n = (s * t).apply (m * n : Nat) := by
  rw [Nat.cast_mul]
  cases s <;> cases t
  · exact neg_mul_neg _ _
  · exact neg_mul _ _
  · exact mul_neg _ _
  · rfl

theorem placeOf_mul {u v : UnpackedFloat} (hu : Packed u) (hv : Packed v) (hf : u.isFinite = true)
    (hf' : v.isFinite = true) :
    Rounded (UnpackedFloat.mul .binary64 u v) ∧
      placeOf (UnpackedFloat.mul .binary64 u v) = nearestInt (unitsOf u * unitsOf v) (-2148) := by
  cases u with
  | notANumber | infinity => cases hf
  | zero s =>
    have hzero : nearestInt (unitsOf (.zero s) * unitsOf v) (-2148) = 0 := by
      rw [unitsOf, zero_mul, nearestInt_zero]
    rw [hzero]
    cases v with
    | notANumber | infinity => cases hf'
    | zero t => exact ⟨trivial, rfl⟩
    | finite t n f hn => exact ⟨trivial, rfl⟩
  | finite s m e hm =>
    cases v with
    | notANumber | infinity => cases hf'
    | zero t =>
      have hzero : nearestInt (unitsOf (.finite s m e hm) * unitsOf (.zero t)) (-2148) = 0 := by
        exact (congrArg (nearestInt · (-2148)) (mul_zero _)).trans (nearestInt_zero _)
      rw [hzero]
      exact ⟨trivial, rfl⟩
    | finite t n f hn =>
      have hne : m * n ≠ 0 := by positivity
      have htarget := le_target_mul hu hv
      have hscale : (-2148 : Int) = e + f - ((e + 1074).toNat + (f + 1074).toNat : Nat) := by
        have := hu.2.1
        have := hv.2.1
        omega
      have hunits : m * 2 ^ (e + 1074).toNat * (n * 2 ^ (f + 1074).toNat) =
          m * n * 2 ^ ((e + 1074).toNat + (f + 1074).toNat) := by ring
      obtain ⟨hrounded, hplace⟩ := placeOf_roundWithAccuracy hne htarget (s * t)
      refine ⟨hrounded, hplace.trans ?_⟩
      rw [unitsOf, unitsOf, apply_mul_apply, hunits, nearestInt_apply _ (by positivity), hscale,
        nearest_mul_pow hne htarget]

end Double
end HotFire
