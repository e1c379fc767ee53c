import HotFire.Proofs.Config.Validation
import HotFire.Proofs.Double.Order
import HotFire.Proofs.Sampling.Channels

/-! What a running average can become. It rises and falls with its readings, so among many
readings the lowest and the highest alone decide whether it can leave the window. -/

namespace HotFire

open Double

/-- The next value of an average. -/
def mix (average reading : Float) : Float := average * averageRetain + reading * averageWeight

theorem averageRetain_factor : averageRetain.isFinite = true ∧ 0 < place averageRetain := by
  decide

theorem averageWeight_factor : averageWeight.isFinite = true ∧ 0 < place averageWeight := by
  decide

theorem mix_le_mix {a b x y : Float} (hab : a ≤ b) (hxy : x ≤ y) (hlow : (mix a x).isNaN = false)
    (hhigh : (mix b y).isNaN = false) : mix a x ≤ mix b y := by
  have hkept : a * averageRetain ≤ b * averageRetain :=
    mul_le_mul_of_pos averageRetain_factor.1 averageRetain_factor.2 hab
  have hadded : x * averageWeight ≤ y * averageWeight :=
    mul_le_mul_of_pos averageWeight_factor.1 averageWeight_factor.2 hxy
  exact Double.add_le_add hkept hadded hlow hhigh

theorem mix_between {low high least most least' most' a x : Float} (hlow : low ≤ a) (hhigh : a ≤ high)
    (hleast : least ≤ x) (hmost : x ≤ most) (hmin : least' ≤ mix low least)
    (hmax : mix high most ≤ most') (hnumber : (mix a x).isNaN = false) :
    least' ≤ mix a x ∧ mix a x ≤ most' := by
  have hbelow := mix_le_mix hlow hleast (isNaN_of_le hmin).2 hnumber
  have habove := mix_le_mix hhigh hmost hnumber (isNaN_of_le hmax).1
  exact ⟨le_of_le_of_le hmin hbelow, le_of_le_of_le habove hmax⟩

/-- Numbers that no mixing leads out of. -/
structure Closed (S : Float → Prop) : Prop where
  number : ∀ a, S a → a.isNaN = false
  mixed : ∀ a x, S a → S x → S (mix a x)

theorem closed_ge : Closed (-largest ≤ ·) := by
  refine ⟨fun a ha => (isNaN_of_le ha).2, fun a x ha hx => ?_⟩
  have hkept : -largest ≤ a * averageRetain :=
    le_of_le_of_le (by decide : -largest ≤ -largest * averageRetain)
      (mul_le_mul_of_pos averageRetain_factor.1 averageRetain_factor.2 ha)
  have hadded : -largest ≤ x * averageWeight :=
    le_of_le_of_le (by decide : -largest ≤ -largest * averageWeight)
      (mul_le_mul_of_pos averageWeight_factor.1 averageWeight_factor.2 hx)
  have hlow : -largest ≤ mix (-largest) (-largest) := by decide
  exact le_of_le_of_le hlow
    (mix_le_mix ha hx (isNaN_of_le hlow).2 (isNaN_add_of_ge hkept hadded))

theorem closed_le : Closed (· ≤ largest) := by
  refine ⟨fun a ha => (isNaN_of_le ha).1, fun a x ha hx => ?_⟩
  have hkept : a * averageRetain ≤ largest :=
    le_of_le_of_le (mul_le_mul_of_pos averageRetain_factor.1 averageRetain_factor.2 ha)
      (by decide : largest * averageRetain ≤ largest)
  have hadded : x * averageWeight ≤ largest :=
    le_of_le_of_le (mul_le_mul_of_pos averageWeight_factor.1 averageWeight_factor.2 hx)
      (by decide : largest * averageWeight ≤ largest)
  have hhigh : mix largest largest ≤ largest := by decide
  exact le_of_le_of_le (mix_le_mix ha hx (isNaN_add_of_le hkept hadded) (isNaN_of_le hhigh).1)
    hhigh

namespace PressureLimits

variable {l : PressureLimits}

theorem inBounds_iff (value : Float) :
    l.inBounds value = true ↔ l.min ≤ value ∧ value ≤ l.max := by
  simp [inBounds]

/-- A finite calibration never gives both infinities, so its readings mix into numbers. -/
theorem exists_closed (hslope : l.slope.isFinite = true) (hintercept : l.intercept.isFinite = true) :
    ∃ S, Closed S ∧ (∀ raw, S (l.calibrate raw)) ∧ ∀ a : Float, a.isFinite = true → S a := by
  have hzero : (0 : Float).isFinite = true := by decide
  have hunits : units 0 = 0 := by decide
  obtain ⟨hlow, hhigh⟩ := bounds_of_isFinite hintercept
  by_cases hsign : 0 ≤ units l.slope
  · refine ⟨_, closed_ge, fun raw => ?_, fun a ha => (bounds_of_isFinite ha).1⟩
    have hraw := isFinite_toFloat raw
    have hprod : (0 : Float) * 0 ≤ l.slope * raw.toFloat := by
      refine mul_le_mul_of_units hzero hzero hslope hraw ?_
      rw [hunits, Int.zero_mul]
      exact Int.mul_nonneg hsign (units_toFloat_nonneg raw)
    have hge : -largest ≤ l.slope * raw.toFloat :=
      le_of_le_of_le (by decide : -largest ≤ 0 * 0) hprod
    have hsum : 0 * 0 + -largest ≤ l.calibrate raw :=
      Double.add_le_add hprod hlow (by decide) (isNaN_add_of_ge hge hlow)
    exact le_of_le_of_le (by decide : -largest ≤ 0 * 0 + -largest) hsum
  · refine ⟨_, closed_le, fun raw => ?_, fun a ha => (bounds_of_isFinite ha).2⟩
    have hraw := isFinite_toFloat raw
    have hprod : l.slope * raw.toFloat ≤ (0 : Float) * 0 := by
      refine mul_le_mul_of_units hslope hraw hzero hzero ?_
      rw [hunits, Int.zero_mul]
      exact Int.mul_nonpos_of_nonpos_of_nonneg (by omega) (units_toFloat_nonneg raw)
    have hle : l.slope * raw.toFloat ≤ largest :=
      le_of_le_of_le hprod (by decide : (0 : Float) * 0 ≤ largest)
    have hsum : l.calibrate raw ≤ 0 * 0 + largest :=
      Double.add_le_add hprod hhigh (isNaN_add_of_le hle hhigh) (by decide)
    exact le_of_le_of_le hsum (by decide : 0 * 0 + largest ≤ largest)

section closed

variable {S : Float → Prop} (hS : Closed S) (hreads : ∀ raw, S (l.calibrate raw))
include hS hreads

/-- Higher readings, one by one, make the average no lower. -/
theorem averaged_le_averaged {raws others : List UInt16}
    (h : List.Forall₂ (fun raw other => l.calibrate raw ≤ l.calibrate other) raws others)
    {a b : Float} (ha : S a) (hb : S b) (hab : a ≤ b) : l.averaged a raws ≤ l.averaged b others := by
  induction h generalizing a b with
  | nil => exact hab
  | @cons raw other raws others hle hrest ih =>
    have hnext : S (mix a (l.calibrate raw)) := hS.mixed a _ ha (hreads raw)
    have hnext' : S (mix b (l.calibrate other)) := hS.mixed b _ hb (hreads other)
    exact ih hnext hnext' (mix_le_mix hab hle (hS.number _ hnext) (hS.number _ hnext'))

/-- The average of some readings lies between those of its lowest and of its highest reading,
each taken as often. -/
theorem averaged_between {a : Float} (ha : S a) {raws : List UInt16} (hne : raws ≠ []) :
    ∃ low ∈ raws, ∃ high ∈ raws,
      l.averaged a (List.replicate raws.length low) ≤ l.averaged a raws ∧
      l.averaged a raws ≤ l.averaged a (List.replicate raws.length high) := by
  have hle : ∀ raw other, place (l.calibrate raw) ≤ place (l.calibrate other) →
      l.calibrate raw ≤ l.calibrate other := fun raw other =>
    (le_iff (hS.number _ (hreads raw)) (hS.number _ (hreads other))).mpr
  have hself : a ≤ a := le_self (hS.number a ha)
  have hnonempty : raws.toFinset.Nonempty := List.toFinset_nonempty_iff raws |>.mpr hne
  obtain ⟨low, hlow, hmin⟩ :=
    Finset.exists_min_image raws.toFinset (fun raw => place (l.calibrate raw)) hnonempty
  obtain ⟨high, hhigh, hmax⟩ :=
    Finset.exists_max_image raws.toFinset (fun raw => place (l.calibrate raw)) hnonempty
  simp only [List.mem_toFinset] at hlow hmin hhigh hmax
  refine ⟨low, hlow, high, hhigh, ?_, ?_⟩
  · rw [← List.map_const']
    refine averaged_le_averaged hS hreads ?_ ha ha hself
    rw [List.forall₂_map_left_iff, List.forall₂_same]
    exact fun raw hraw => hle low raw (hmin raw hraw)
  · rw [← List.map_const']
    refine averaged_le_averaged hS hreads ?_ ha ha hself
    rw [List.forall₂_map_right_iff, List.forall₂_same]
    exact fun raw hraw => hle raw high (hmax raw hraw)

/-- A window that rounding does not lead out of keeps an average that starts inside and whose
readings are all inside. -/
theorem averaged_inBounds (hmin : l.min ≤ mix l.min l.min) (hmax : mix l.max l.max ≤ l.max)
    {raws : List UInt16} (hinside : ∀ raw ∈ raws, l.inBounds (l.calibrate raw) = true)
    {a : Float} (ha : S a) (hin : l.inBounds a = true) : l.inBounds (l.averaged a raws) = true := by
  induction raws generalizing a with
  | nil => exact hin
  | cons raw raws ih =>
    obtain ⟨hlow, hhigh⟩ := (inBounds_iff a).mp hin
    obtain ⟨hlow', hhigh'⟩ := (inBounds_iff _).mp (hinside raw List.mem_cons_self)
    have hnext : S (mix a (l.calibrate raw)) := hS.mixed a _ ha (hreads raw)
    have hstays := mix_between hlow hhigh hlow' hhigh' hmin hmax (hS.number _ hnext)
    exact ih (fun other hother => hinside other (List.mem_cons_of_mem _ hother)) hnext
      ((inBounds_iff _).mpr hstays)

end closed

/-- If an average is outside the window, then so is that of some one of its readings, taken
as often. -/
theorem exists_replicate_outside {S : Float → Prop} (hS : Closed S)
    (hreads : ∀ raw, S (l.calibrate raw)) {a : Float} (ha : S a) {raws : List UInt16}
    (hne : raws ≠ []) (hout : l.inBounds (l.averaged a raws) = false) :
    ∃ raw ∈ raws, l.inBounds (l.averaged a (List.replicate raws.length raw)) = false := by
  obtain ⟨low, hlow, high, hhigh, hbelow, habove⟩ := averaged_between hS hreads ha hne
  rw [Bool.eq_false_iff, ne_eq, inBounds_iff] at hout
  by_cases hin : l.inBounds (l.averaged a (List.replicate raws.length low)) = true
  · refine ⟨high, hhigh, ?_⟩
    rw [Bool.eq_false_iff, ne_eq, inBounds_iff]
    intro hin'
    have hmin := ((inBounds_iff _).mp hin).1
    exact hout ⟨le_of_le_of_le hmin hbelow, le_of_le_of_le habove hin'.2⟩
  · exact ⟨low, hlow, Bool.eq_false_iff.mpr hin⟩

end PressureLimits

namespace PressureGuard

/-- Some readings, those of the first transducer all inside its window, leave the shutoff set. -/
def TripsInside (g : PressureGuard) (l : PressureLimits) : Prop :=
  ∃ calls : List Call, (∀ on, .write on ∉ calls) ∧
    (∀ raw ∈ readingsOf .pt1 calls, l.inBounds (l.calibrate raw) = true) ∧
    (g.follow {} calls).2.shutoff = true

theorem readingsOf_map_reading (s : Sensor) (raws : List UInt16) :
    readingsOf s (raws.map (.reading s)) = raws := by
  simp [readingsOf, List.filterMap_map]

/-- A guard of the first transducer alone has the shutoff set while its average is outside. -/
theorem follow_pt1_shutoff_iff (l : PressureLimits) {calls : List Call}
    (hno : ∀ on, .write on ∉ calls) :
    ((⟨[.start .pt1 l]⟩ : PressureGuard).follow {} calls).2.shutoff = true ↔
      readingsOf .pt1 calls ≠ [] ∧
        l.inBounds (l.averaged l.nominal (readingsOf .pt1 calls)) = false := by
  let specs := [(SensorSpec.ofSensor .pt1).withLimits l]
  have hsize : specs.length ≤ SensorGroup.maxSensors := Nat.le_of_ble_eq_true rfl
  have hdistinct : (specs.map (·.sensor)).Nodup := List.nodup_singleton _
  have halarm := follow_shutoff_iff (g := ⟨[.start .pt1 l]⟩) hsize hdistinct rfl {} calls
  rw [follow_agrees rfl hno, halarm]
  constructor
  · intro ⟨spec, hspec, limits, hlim, hread, hout⟩
    obtain rfl := List.mem_singleton.mp hspec
    obtain rfl : l = limits := Option.some.inj hlim
    exact ⟨hread, hout⟩
  · intro ⟨hread, hout⟩
    exact ⟨_, List.mem_singleton_self _, l, rfl, hread, hout⟩

theorem follow_map_reading_shutoff_iff (l : PressureLimits) (raws : List UInt16) :
    ((⟨[.start .pt1 l]⟩ : PressureGuard).follow {} (raws.map (.reading .pt1))).2.shutoff = true ↔
      raws ≠ [] ∧ l.inBounds (l.averaged l.nominal raws) = false := by
  have hno : ∀ on, Call.write on ∉ raws.map (Call.reading .pt1) := by simp
  rw [follow_pt1_shutoff_iff l hno, readingsOf_map_reading]

end PressureGuard

namespace StandConfig

open PressureGuard

/-- Readings inside the window can trip the shutoff of a valid configuration exactly when one
such reading, repeated often enough, does. They cannot when the average starts inside and
rounding leads out of neither bound. That it starts inside, nothing checks. -/
theorem trips_inside_iff {c : StandConfig} (h : c.validate = .ok ()) :
    ∃ group ∈ c.groups, (∀ spec ∈ group.sensors, spec.sensor.kind = .pressureTransducer) ∧
      ∃ g, ofSpecs? group.sensors = some g ∧
        let l := c.pressure.limits
        (g.TripsInside l ↔ ∃ raw n, l.inBounds (l.calibrate raw) = true ∧
          l.inBounds (l.averaged l.nominal (List.replicate (n + 1) raw)) = false) ∧
        (l.inBounds l.nominal = true → l.min ≤ mix l.min l.min → mix l.max l.max ≤ l.max →
          ¬ g.TripsInside l) := by
  obtain ⟨-, ⟨hslope, hintercept, hnominal⟩, -⟩ :=
    c.flaw?_eq_none_iff.mp (c.validate_eq_ok_iff.mp h)
  let l := c.pressure.limits
  obtain ⟨S, hS, hreads, hfinite⟩ := PressureLimits.exists_closed hslope hintercept
  have hstart : S l.nominal := hfinite l.nominal hnominal
  refine ⟨_, List.mem_cons_of_mem _ List.mem_cons_self, ?_, ⟨[.start .pt1 l]⟩, rfl, ⟨?_, ?_⟩, ?_⟩
  · intro spec hspec
    simp [SensorGroup.ofSpecs, SensorGroup.maxSensors, SensorSpec.withLimits] at hspec
    rcases hspec with rfl | rfl | rfl | rfl <;> rfl
  · intro ⟨calls, hno, hinside, hset⟩
    obtain ⟨hread, hout⟩ := (follow_pt1_shutoff_iff l hno).mp hset
    obtain ⟨raw, hraw, hout'⟩ :=
      PressureLimits.exists_replicate_outside hS hreads hstart hread hout
    obtain ⟨n, hn⟩ := Nat.exists_eq_succ_of_ne_zero (List.length_eq_zero_iff.not.mpr hread)
    rw [hn] at hout'
    exact ⟨raw, n, hinside raw hraw, hout'⟩
  · intro ⟨raw, n, hinside, hout⟩
    let raws := List.replicate (n + 1) raw
    refine ⟨raws.map (.reading .pt1), by simp, ?_, ?_⟩
    · intro other hother
      rw [readingsOf_map_reading] at hother
      rw [List.eq_of_mem_replicate hother]
      exact hinside
    · rw [follow_map_reading_shutoff_iff]
      exact ⟨nofun, hout⟩
  · intro hin hmin hmax ⟨calls, hno, hinside, hset⟩
    obtain ⟨-, hout⟩ := (follow_pt1_shutoff_iff l hno).mp hset
    have hkept := PressureLimits.averaged_inBounds hS hreads hmin hmax hinside hstart hin
    exact Bool.false_ne_true (hout.symm.trans hkept)

theorem trips_inside_iff_of_standard :
    standard.validate = .ok () ∧ ∃ group ∈ standard.groups, ∃ g,
      ofSpecs? group.sensors = some g ∧ ¬ g.TripsInside .standard := by
  have hvalid : standard.validate = .ok () := rfl
  obtain ⟨group, hgroup, -, g, hg, -, hnever⟩ := trips_inside_iff hvalid
  have hin : PressureLimits.standard.inBounds PressureLimits.standard.nominal = true := by decide
  exact ⟨hvalid, group, hgroup, g, hg, hnever hin (by decide) (by decide)⟩

/-- A nominal pressure above the window is accepted, and trips on the first reading inside. -/
theorem trips_inside_of_high_nominal :
    let limits : PressureLimits := { PressureLimits.standard with nominal := 900 }
    let c := { standard with pressure := { standard.pressure with limits := limits } }
    c.validate = .ok () ∧ limits.inBounds (limits.calibrate 1361) = true ∧
      ∃ group ∈ c.groups, ∃ g, ofSpecs? group.sensors = some g ∧ g.guards .pt1 = true ∧
        (g.update .pt1 1361 {}).flags.shutoff = true := by
  refine ⟨rfl, by decide, _, List.mem_cons_of_mem _ List.mem_cons_self, _, rfl, rfl, ?_⟩
  decide

-- Rounding leads out of a lower bound of 3.
example :
    let l : PressureLimits := ⟨0, 3, 3, 4, 3⟩
    l.inBounds l.nominal = true ∧ l.inBounds (l.calibrate 0) = true ∧
      l.inBounds (l.averaged l.nominal [0]) = false := by decide

end StandConfig
end HotFire
