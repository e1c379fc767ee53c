import HotFire.Proofs.Double.Arithmetic

/-! Sums and products of doubles keep the order of their parts, and when they are numbers. -/

namespace HotFire
namespace Double

open Float.Model UnpackedFloat

/-- Where a double stands among all doubles that are numbers. -/
def place (x : Float) : Int := placeOf x.toModel.unpack

/-- A finite double as a whole number of least doubles. -/
def units (x : Float) : Int := unitsOf x.toModel.unpack

theorem isNaN_eq_false_iff (x : Float) : x.isNaN = false ↔ x.toModel.unpack ≠ .notANumber := by
  change x.toModel.unpack.isNaN = false ↔ _
  cases x.toModel.unpack <;> simp [UnpackedFloat.isNaN]

theorem packed {x : Float} (h : x.isNaN = false) : Packed x.toModel.unpack :=
  packed_unpack ((isNaN_eq_false_iff x).mp h)

theorem isNaN_of_isFinite {x : Float} (h : x.isFinite = true) : x.isNaN = false := by
  rw [isNaN_eq_false_iff]
  change x.toModel.unpack.isFinite = true at h
  intro hnan
  rw [hnan] at h
  cases h

theorem isNaN_of_le {x y : Float} (h : x ≤ y) : x.isNaN = false ∧ y.isNaN = false := by
  change decide (x.toModel.unpack.le y.toModel.unpack = true) = true at h
  rw [isNaN_eq_false_iff, isNaN_eq_false_iff]
  constructor
  · intro hnan
    rw [hnan] at h
    cases h
  · intro hnan
    rw [hnan] at h
    cases hx : x.toModel.unpack <;> rw [hx] at h <;> cases h

theorem le_iff {x y : Float} (hx : x.isNaN = false) (hy : y.isNaN = false) :
    x ≤ y ↔ place x ≤ place y := by
  change decide (x.toModel.unpack.le y.toModel.unpack = true) = true ↔ _
  rw [decide_eq_true_eq]
  exact le_iff_placeOf (packed hx) (packed hy)

theorem place_le {x y : Float} (h : x ≤ y) : place x ≤ place y :=
  (le_iff (isNaN_of_le h).1 (isNaN_of_le h).2).mp h

theorem le_self {x : Float} (h : x.isNaN = false) : x ≤ x := (le_iff h h).mpr le_rfl

theorem le_of_le_of_le {x y z : Float} (h : x ≤ y) (h' : y ≤ z) : x ≤ z :=
  (le_iff (isNaN_of_le h).1 (isNaN_of_le h').2).mpr ((place_le h).trans (place_le h'))

theorem isFinite_iff_place {x : Float} (h : x.isNaN = false) :
    x.isFinite = true ↔ -(2047 * 2 ^ 52) < place x ∧ place x < 2047 * 2 ^ 52 := by
  have hpacked := packed h
  change x.toModel.unpack.isFinite = true ↔ _
  rw [place]
  cases hx : x.toModel.unpack with
  | notANumber => exact absurd hx ((isNaN_eq_false_iff x).mp h)
  | zero s => exact iff_of_true rfl (by simp [placeOf])
  | infinity s => cases s <;> exact iff_of_false Bool.false_ne_true (by decide)
  | finite s m e hm =>
    rw [hx] at hpacked
    obtain ⟨hpos, hlt⟩ := hpacked.magnitude
    refine iff_of_true rfl ?_
    cases s <;> simp only [placeOf, Sign.apply] <;> omega

theorem unpack_add (x y : Float) : (x + y).toModel.unpack =
    unpack .binary64 (UnpackedFloat.pack .binary64
      (UnpackedFloat.add .binary64 x.toModel.unpack y.toModel.unpack)) := rfl

theorem unpack_mul (x y : Float) : (x * y).toModel.unpack =
    unpack .binary64 (UnpackedFloat.pack .binary64
      (UnpackedFloat.mul .binary64 x.toModel.unpack y.toModel.unpack)) := rfl

theorem place_add {x y : Float} (hx : x.isFinite = true) (hy : y.isFinite = true) :
    (x + y).isNaN = false ∧
      place (x + y) = clamp (nearestInt (units x + units y) (-1074)) := by
  obtain ⟨hrounded, hplace⟩ := placeOf_add (packed (isNaN_of_isFinite hx))
    (packed (isNaN_of_isFinite hy)) hx hy
  obtain ⟨hnan, hpack⟩ := hrounded.unpack_pack
  rw [isNaN_eq_false_iff, place, unpack_add]
  exact ⟨hnan, hpack.trans (congrArg clamp hplace)⟩

theorem place_mul {x y : Float} (hx : x.isFinite = true) (hy : y.isFinite = true) :
    (x * y).isNaN = false ∧
      place (x * y) = clamp (nearestInt (units x * units y) (-2148)) := by
  obtain ⟨hrounded, hplace⟩ := placeOf_mul (packed (isNaN_of_isFinite hx))
    (packed (isNaN_of_isFinite hy)) hx hy
  obtain ⟨hnan, hpack⟩ := hrounded.unpack_pack
  rw [isNaN_eq_false_iff, place, unpack_mul]
  exact ⟨hnan, hpack.trans (congrArg clamp hplace)⟩

theorem clamp_mono {p q : Int} (h : p ≤ q) : clamp p ≤ clamp q := by
  rw [clamp, clamp]
  omega

theorem units_mono {x y : Float} (hx : x.isFinite = true) (hy : y.isFinite = true) (h : x ≤ y) :
    units x ≤ units y :=
  unitsOf_mono (packed (isNaN_of_isFinite hx)) (packed (isNaN_of_isFinite hy)) hx hy (place_le h)

/-- Rounding keeps the order of exact products. -/
theorem mul_le_mul_of_units {a b c d : Float} (ha : a.isFinite = true) (hb : b.isFinite = true)
    (hc : c.isFinite = true) (hd : d.isFinite = true) (h : units a * units b ≤ units c * units d) :
    a * b ≤ c * d := by
  obtain ⟨hab, hp⟩ := place_mul ha hb
  obtain ⟨hcd, hp'⟩ := place_mul hc hd
  rw [le_iff hab hcd, hp, hp']
  exact clamp_mono (nearestInt_mono h (by decide))

/-- Rounding keeps the order of exact sums. -/
theorem add_le_add_of_isFinite {a b c d : Float} (ha : a.isFinite = true) (hb : b.isFinite = true)
    (hc : c.isFinite = true) (hd : d.isFinite = true) (hab : a ≤ b) (hcd : c ≤ d) :
    a + c ≤ b + d := by
  obtain ⟨hac, hp⟩ := place_add ha hc
  obtain ⟨hbd, hp'⟩ := place_add hb hd
  rw [le_iff hac hbd, hp, hp']
  exact clamp_mono (nearestInt_mono (add_le_add (units_mono ha hb hab) (units_mono hc hd hcd))
    le_rfl)

theorem place_bounds {x : Float} (h : x.isNaN = false) :
    -(2047 * 2 ^ 52) ≤ place x ∧ place x ≤ 2047 * 2 ^ 52 := by
  have hpacked := packed h
  rw [place]
  cases hx : x.toModel.unpack with
  | notANumber => exact absurd hx ((isNaN_eq_false_iff x).mp h)
  | zero s => simp [placeOf]
  | infinity s => cases s <;> simp [placeOf, Sign.apply]
  | finite s m e hm =>
    rw [hx] at hpacked
    obtain ⟨hpos, hlt⟩ := hpacked.magnitude
    cases s <;> simp only [placeOf, Sign.apply] <;> omega

theorem unpack_of_place {x : Float} (h : x.isNaN = false) {s : Sign}
    (hs : place x = s.apply (2047 * 2 ^ 52)) : x.toModel.unpack = .infinity s := by
  have hpacked := packed h
  rw [place] at hs
  cases hx : x.toModel.unpack with
  | notANumber => exact absurd hx ((isNaN_eq_false_iff x).mp h)
  | zero t =>
    rw [hx] at hs
    cases s <;> cases hs
  | infinity t =>
    rw [hx] at hs
    cases s <;> cases t <;> first | rfl | exact absurd hs (by decide)
  | finite t m e hm =>
    rw [hx] at hpacked hs
    obtain ⟨hpos, hlt⟩ := hpacked.magnitude
    cases s <;> cases t <;> simp only [placeOf, Sign.apply] at hs <;> omega

/-- An infinity swallows what is added to it, except what makes the sum no number. -/
theorem add_infinity (t : Sign) (v : UnpackedFloat) :
    UnpackedFloat.add .binary64 (.infinity t) v = .infinity t ∧
        UnpackedFloat.add .binary64 v (.infinity t) = .infinity t ∨
      UnpackedFloat.add .binary64 (.infinity t) v = .notANumber ∧
        UnpackedFloat.add .binary64 v (.infinity t) = .notANumber ∧
        (v = .notANumber ∨ ∃ s, s ≠ t ∧ v = .infinity s) := by
  cases v with
  | notANumber => exact .inr ⟨rfl, rfl, .inl rfl⟩
  | infinity s =>
    by_cases hs : s = t
    · subst hs
      cases s <;> exact .inl ⟨rfl, rfl⟩
    · refine .inr ⟨?_, ?_, .inr ⟨s, hs, rfl⟩⟩ <;>
        cases s <;> cases t <;> first | rfl | exact absurd rfl hs
  | _ => exact .inl ⟨rfl, rfl⟩

theorem place_add_of_infinity {x y : Float} {s : Sign} (h : (x + y).isNaN = false)
    (hs : x.toModel.unpack = .infinity s ∨ y.toModel.unpack = .infinity s) :
    place (x + y) = s.apply (2047 * 2 ^ 52) := by
  rw [isNaN_eq_false_iff, unpack_add] at h
  rw [place, unpack_add]
  rcases hs with hx | hy
  · rw [hx] at h ⊢
    obtain ⟨hsum, -⟩ | ⟨hsum, -⟩ := add_infinity s y.toModel.unpack
    · rw [hsum, unpack_pack_infinity, placeOf]
    · exact absurd (by rw [hsum]; rfl) h
  · rw [hy] at h ⊢
    obtain ⟨-, hsum⟩ | ⟨-, hsum, -⟩ := add_infinity s x.toModel.unpack
    · rw [hsum, unpack_pack_infinity, placeOf]
    · exact absurd (by rw [hsum]; rfl) h

theorem isFinite_of_le {x y : Float} (h : x ≤ y) (hx : x.toModel.unpack ≠ .infinity .negative)
    (hy : y.toModel.unpack ≠ .infinity .positive) : x.isFinite = true ∧ y.isFinite = true := by
  obtain ⟨hnx, hny⟩ := isNaN_of_le h
  have hle := place_le h
  have hlow : place x ≠ -(2047 * 2 ^ 52) := fun hp => hx (unpack_of_place hnx hp)
  have hhigh : place y ≠ 2047 * 2 ^ 52 := fun hp => hy (unpack_of_place hny hp)
  have hbx := place_bounds hnx
  have hby := place_bounds hny
  rw [isFinite_iff_place hnx, isFinite_iff_place hny]
  omega

/-- Addition keeps the order wherever its results are numbers. -/
theorem add_le_add {a b c d : Float} (hab : a ≤ b) (hcd : c ≤ d) (hac : (a + c).isNaN = false)
    (hbd : (b + d).isNaN = false) : a + c ≤ b + d := by
  have hlow := place_bounds hac
  have hhigh := place_bounds hbd
  by_cases hup : b.toModel.unpack = .infinity .positive ∨ d.toModel.unpack = .infinity .positive
  · rw [le_iff hac hbd, place_add_of_infinity hbd hup]
    exact hlow.2
  by_cases hdown : a.toModel.unpack = .infinity .negative ∨ c.toModel.unpack = .infinity .negative
  · rw [le_iff hac hbd, place_add_of_infinity hac hdown]
    exact hhigh.1
  rw [not_or] at hup hdown
  obtain ⟨ha, hb⟩ := isFinite_of_le hab hdown.1 hup.1
  obtain ⟨hc, hd⟩ := isFinite_of_le hcd hdown.2 hup.2
  exact add_le_add_of_isFinite ha hb hc hd hab hcd

theorem exists_infinity {x : Float} (h : x.isNaN = false) (hf : x.isFinite ≠ true) :
    ∃ s, x.toModel.unpack = .infinity s := by
  change x.toModel.unpack.isFinite ≠ true at hf
  cases hx : x.toModel.unpack with
  | notANumber => exact absurd hx ((isNaN_eq_false_iff x).mp h)
  | infinity s => exact ⟨s, rfl⟩
  | _ =>
    rw [hx] at hf
    exact absurd rfl hf

theorem exists_positive {w : Float} (hf : w.isFinite = true) (hw : 0 < place w) :
    ∃ m e hm, w.toModel.unpack = .finite .positive m e hm := by
  have hpacked := packed (isNaN_of_isFinite hf)
  change w.toModel.unpack.isFinite = true at hf
  rw [place] at hw
  cases hu : w.toModel.unpack with
  | notANumber | infinity =>
    rw [hu] at hf
    cases hf
  | zero s =>
    rw [hu] at hw
    cases hw
  | finite s m e hm =>
    rw [hu] at hpacked hw
    obtain ⟨hpos, -⟩ := hpacked.magnitude
    cases s with
    | positive => exact ⟨m, e, hm, rfl⟩
    | negative =>
      simp only [placeOf, Sign.apply] at hw
      omega

section factor

variable {w : Float} (hf : w.isFinite = true) (hw : 0 < place w)
include hf hw

theorem units_pos : 0 < units w := by
  obtain ⟨m, e, hm, hu⟩ := exists_positive hf hw
  rw [units, hu, unitsOf, Sign.apply]
  positivity

theorem unpack_mul_of_infinity {x : Float} {s : Sign} (hx : x.toModel.unpack = .infinity s) :
    (x * w).toModel.unpack = .infinity s := by
  obtain ⟨m, e, hm, hu⟩ := exists_positive hf hw
  have hmul : UnpackedFloat.mul .binary64 (.infinity s) (.finite .positive m e hm) =
      .infinity s := by cases s <;> rfl
  rw [unpack_mul, hx, hu, hmul, unpack_pack_infinity]

theorem isNaN_mul {x : Float} (hx : x.isNaN = false) : (x * w).isNaN = false := by
  by_cases hfx : x.isFinite = true
  · exact (place_mul hfx hf).1
  · obtain ⟨s, hs⟩ := exists_infinity hx hfx
    rw [isNaN_eq_false_iff, unpack_mul_of_infinity hf hw hs]
    nofun

/-- So does multiplication by what is positive and finite. -/
theorem mul_le_mul_of_pos {a b : Float} (hab : a ≤ b) : a * w ≤ b * w := by
  obtain ⟨hna, hnb⟩ := isNaN_of_le hab
  have haw := isNaN_mul hf hw hna
  have hbw := isNaN_mul hf hw hnb
  by_cases hup : b.toModel.unpack = .infinity .positive
  · have htop : place (b * w) = 2047 * 2 ^ 52 :=
      congrArg placeOf (unpack_mul_of_infinity hf hw hup)
    rw [le_iff haw hbw, htop]
    exact (place_bounds haw).2
  by_cases hdown : a.toModel.unpack = .infinity .negative
  · have hbottom : place (a * w) = -(2047 * 2 ^ 52) :=
      congrArg placeOf (unpack_mul_of_infinity hf hw hdown)
    rw [le_iff haw hbw, hbottom]
    exact (place_bounds hbw).1
  obtain ⟨ha, hb⟩ := isFinite_of_le hab hdown hup
  exact mul_le_mul_of_units ha hf hb hf
    (Int.mul_le_mul_of_nonneg_right (units_mono ha hb hab) (units_pos hf hw).le)

end factor

/-- The largest finite double. -/
def largest : Float := Float.ofBits 0x7FEFFFFFFFFFFFFF

theorem bounds_of_isFinite {x : Float} (hx : x.isFinite = true) : -largest ≤ x ∧ x ≤ largest := by
  have hnan := isNaN_of_isFinite hx
  have hstrict := (isFinite_iff_place hnan).mp hx
  have hlow : place (-largest) = -(2047 * 2 ^ 52 - 1) := by decide
  have hhigh : place largest = 2047 * 2 ^ 52 - 1 := by decide
  rw [le_iff (by decide) hnan, le_iff hnan (by decide), hlow, hhigh]
  omega

/-- A sum whose parts both differ from the same infinity is a number if they are. -/
theorem isNaN_add (s : Sign) {x y : Float} (hx : x.isNaN = false) (hy : y.isNaN = false)
    (hxs : x.toModel.unpack ≠ .infinity s) (hys : y.toModel.unpack ≠ .infinity s) :
    (x + y).isNaN = false := by
  have hother : ∀ {t r : Sign}, t ≠ s → r ≠ t → r = s := by
    intro t r ht hr
    cases s <;> cases t <;> cases r <;> first | rfl | exact absurd rfl ht | exact absurd rfl hr
  rw [isNaN_eq_false_iff] at hx hy
  by_cases hfx : x.isFinite = true
  · by_cases hfy : y.isFinite = true
    · exact (place_add hfx hfy).1
    · obtain ⟨t, ht⟩ := exists_infinity ((isNaN_eq_false_iff y).mpr hy) hfy
      rw [isNaN_eq_false_iff, unpack_add, ht]
      obtain ⟨-, hsum⟩ | ⟨-, -, hnan | ⟨r, hr, hxr⟩⟩ := add_infinity t x.toModel.unpack
      · rw [hsum, unpack_pack_infinity]
        nofun
      · exact absurd hnan hx
      · exact absurd (hother (fun h => hys (h ▸ ht)) hr ▸ hxr) hxs
  · obtain ⟨t, ht⟩ := exists_infinity ((isNaN_eq_false_iff x).mpr hx) hfx
    rw [isNaN_eq_false_iff, unpack_add, ht]
    obtain ⟨hsum, -⟩ | ⟨-, -, hnan | ⟨r, hr, hyr⟩⟩ := add_infinity t y.toModel.unpack
    · rw [hsum, unpack_pack_infinity]
      nofun
    · exact absurd hnan hy
    · exact absurd (hother (fun h => hxs (h ▸ ht)) hr ▸ hyr) hys

theorem unpack_ne_of_ge {x : Float} (h : -largest ≤ x) :
    x.toModel.unpack ≠ .infinity .negative := fun hx => by
  have hle := place_le h
  rw [place, place, hx] at hle
  exact absurd hle (by decide)

theorem unpack_ne_of_le {x : Float} (h : x ≤ largest) :
    x.toModel.unpack ≠ .infinity .positive := fun hx => by
  have hle := place_le h
  rw [place, place, hx] at hle
  exact absurd hle (by decide)

theorem isNaN_add_of_ge {x y : Float} (hx : -largest ≤ x) (hy : -largest ≤ y) :
    (x + y).isNaN = false :=
  isNaN_add .negative (isNaN_of_le hx).2 (isNaN_of_le hy).2 (unpack_ne_of_ge hx) (unpack_ne_of_ge hy)

theorem isNaN_add_of_le {x y : Float} (hx : x ≤ largest) (hy : y ≤ largest) :
    (x + y).isNaN = false :=
  isNaN_add .positive (isNaN_of_le hx).1 (isNaN_of_le hy).1 (unpack_ne_of_le hx) (unpack_ne_of_le hy)

theorem unpack_toFloat (n : UInt16) : n.toFloat.toModel.unpack =
    unpack .binary64 (UnpackedFloat.pack .binary64
      (UnpackedFloat.normalize .binary64 n.toNat 0 .positive)) := rfl

theorem place_toFloat (n : UInt16) : n.toFloat.isNaN = false ∧
    place n.toFloat = clamp (nearestInt (n.toNat * (2 ^ ((0 : Int) + 1074).toNat : Nat)) (-1074)) := by
  obtain ⟨hrounded, hplace⟩ := placeOf_normalize (n := n.toNat) (e := 0) (by decide) .positive
  obtain ⟨hnan, hpack⟩ := hrounded.unpack_pack
  rw [isNaN_eq_false_iff, place, unpack_toFloat]
  exact ⟨hnan, hpack.trans (congrArg clamp hplace)⟩

theorem toFloat_mono {m n : UInt16} (h : m ≤ n) : m.toFloat ≤ n.toFloat := by
  obtain ⟨hm, hp⟩ := place_toFloat m
  obtain ⟨hn, hp'⟩ := place_toFloat n
  rw [le_iff hm hn, hp, hp']
  refine clamp_mono (nearestInt_mono (Int.mul_le_mul_of_nonneg_right ?_ (Int.natCast_nonneg _))
    le_rfl)
  exact Int.ofNat_le.mpr (UInt16.le_iff_toNat_le.mp h)

theorem isFinite_toFloat (n : UInt16) : n.toFloat.isFinite = true := by
  have hlow := place_le (toFloat_mono (UInt16.zero_le : 0 ≤ n))
  have hhigh := place_le (toFloat_mono (UInt16.le_iff_toNat_le.mpr (Nat.le_of_lt_succ n.toNat_lt) :
    n ≤ 65535))
  have hzero : place (0 : UInt16).toFloat = 0 := by decide
  have hmax : place (65535 : UInt16).toFloat < 2047 * 2 ^ 52 := by decide
  rw [isFinite_iff_place (place_toFloat n).1]
  omega

theorem units_toFloat_nonneg (n : UInt16) : 0 ≤ units n.toFloat := by
  have hzero : units (0 : UInt16).toFloat = 0 := by decide
  have hmono := units_mono (isFinite_toFloat 0) (isFinite_toFloat n)
    (toFloat_mono (UInt16.zero_le : 0 ≤ n))
  omega

end Double
end HotFire
