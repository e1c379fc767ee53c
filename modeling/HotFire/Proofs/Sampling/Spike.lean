import HotFire.Proofs.Board.Converters
import HotFire.Proofs.Sampling.Average

/-! What one reading off the nominal pressure does to the standard guard. None of twelve bits trips
it; that of a failed conversion, which is far outside them, always does. -/

namespace HotFire

open Double

/-- The raw reading at the nominal pressure of the standard limits. -/
def nominalRaw : UInt16 := 1361

namespace PressureLimits

/-- A falling calibration turns the order of raw readings around. -/
theorem calibrate_le_calibrate {l : PressureLimits} (hslope : l.slope.isFinite = true)
    (hintercept : l.intercept.isFinite = true) (hfalls : l.slope ≤ 0) {low high : UInt16}
    (h : low ≤ high) : l.calibrate high ≤ l.calibrate low := by
  obtain ⟨S, hS, hreads, -⟩ := exists_closed hslope hintercept
  have hsign : units l.slope ≤ 0 := (units_mono hslope (by decide) hfalls).trans_eq (by decide)
  have hprod : l.slope * high.toFloat ≤ l.slope * low.toFloat := by
    refine mul_le_mul_of_units hslope (isFinite_toFloat high) hslope (isFinite_toFloat low) ?_
    exact Int.mul_le_mul_of_nonpos_left hsign
      (units_mono (isFinite_toFloat low) (isFinite_toFloat high) (toFloat_mono h))
  exact Double.add_le_add hprod (le_self (isNaN_of_isFinite hintercept))
    (hS.number _ (hreads high)) (hS.number _ (hreads low))

theorem standard_calibrate_le {low high : UInt16} (h : low ≤ high) :
    standard.calibrate high ≤ standard.calibrate low :=
  calibrate_le_calibrate (by decide) (by decide) (by decide) h

theorem averaged_withBounds (l : PressureLimits) (min max a : Float) (raws : List UInt16) :
    ({ l with min, max } : PressureLimits).averaged a raws = l.averaged a raws := rfl

theorem averaged_concat (l : PressureLimits) (a : Float) (raws : List UInt16) (raw : UInt16) :
    l.averaged a (raws ++ [raw]) = mix (l.averaged a raws) (l.calibrate raw) := by
  rw [averaged, List.foldl_append]
  rfl

/-- Nominal readings keep the standard average within one of its nominal value. -/
theorem standard_averaged_nominal (n : Nat) :
    699 ≤ standard.averaged standard.nominal (List.replicate n nominalRaw) ∧
      standard.averaged standard.nominal (List.replicate n nominalRaw) ≤ 701 := by
  let band : PressureLimits := { standard with min := 699, max := 701 }
  obtain ⟨S, hS, hreads, hfinite⟩ := exists_closed (l := band) (by decide) (by decide)
  have hinside : ∀ raw ∈ List.replicate n nominalRaw, band.inBounds (band.calibrate raw) = true := by
    intro raw hraw
    obtain rfl : raw = nominalRaw := List.eq_of_mem_replicate hraw
    decide
  have hin := averaged_inBounds hS hreads (by decide) (by decide) hinside
    (hfinite standard.nominal (by decide)) (by decide)
  rw [averaged_withBounds] at hin
  exact (inBounds_iff (l := band) _).mp hin

theorem isNaN_standard_mix {a : Float} (hhigh : a ≤ 701) (raw : UInt16) :
    (mix a (standard.calibrate raw)).isNaN = false := by
  have haverage : a ≤ largest := le_of_le_of_le hhigh (by decide)
  have hreading : standard.calibrate raw ≤ largest :=
    le_of_le_of_le (standard_calibrate_le UInt16.zero_le) (by decide)
  exact closed_le.number _ (closed_le.mixed _ _ haverage hreading)

/-- After them, a reading of twelve bits does not lead out of the window. -/
theorem standard_inBounds_mix {a : Float} (hlow : 699 ≤ a) (hhigh : a ≤ 701) {raw : UInt16}
    (hraw : raw.toNat ≤ 4095) : standard.inBounds (mix a (standard.calibrate raw)) = true := by
  have hleast : standard.calibrate 4095 ≤ standard.calibrate raw :=
    standard_calibrate_le (UInt16.le_iff_toNat_le.mpr hraw)
  have hmost : standard.calibrate raw ≤ standard.calibrate 0 :=
    standard_calibrate_le UInt16.zero_le
  have hmin : standard.min ≤ mix 699 (standard.calibrate 4095) := by decide
  have hmax : mix 701 (standard.calibrate 0) ≤ standard.max := by decide
  exact (inBounds_iff _).mpr
    (mix_between hlow hhigh hleast hmost hmin hmax (isNaN_standard_mix hhigh raw))

/-- The reading of a failed conversion does. -/
theorem standard_outside_mix {a : Float} (hhigh : a ≤ 701) :
    standard.inBounds (mix a (standard.calibrate conversionFault)) = false := by
  have hself : standard.calibrate conversionFault ≤ standard.calibrate conversionFault := by decide
  have hfar : mix 701 (standard.calibrate conversionFault) ≤ 0 := by decide
  have hbelow := le_of_le_of_le
    (mix_le_mix hhigh hself (isNaN_standard_mix hhigh _) (isNaN_of_le hfar).1) hfar
  rw [Bool.eq_false_iff, ne_eq, inBounds_iff]
  intro hin
  exact absurd (le_of_le_of_le hin.1 hbelow) (by decide)

end PressureLimits

namespace PressureGuard

/-- Whatever a converter bank reads, once, after any number of nominal readings, trips the
standard guard if and only if it is the fault. -/
theorem spike_trips_iff_fault (n : Nat) (b : ConverterBank) (input : ConverterInput) :
    ∃ group ∈ StandConfig.standard.groups, ∃ g, ofSpecs? group.sensors = some g ∧
      let nominal := List.replicate n nominalRaw
      let raw := (b.read input).value
      (g.follow {} (nominal.map (.reading .pt1))).2.shutoff = false ∧
        ((g.follow {} ((nominal ++ [raw]).map (.reading .pt1))).2.shutoff = true ↔
          raw = conversionFault) := by
  let l := PressureLimits.standard
  refine ⟨_, List.mem_cons_of_mem _ List.mem_cons_self, ⟨[.start .pt1 l]⟩, rfl, ?_⟩
  intro nominal raw
  obtain ⟨hlow, hhigh⟩ := PressureLimits.standard_averaged_nominal n
  constructor
  · rw [Bool.eq_false_iff, ne_eq, follow_map_reading_shutoff_iff]
    intro hout
    have hmin : l.min ≤ l.averaged l.nominal nominal := le_of_le_of_le (by decide) hlow
    have hmax : l.averaged l.nominal nominal ≤ l.max := le_of_le_of_le hhigh (by decide)
    have hin := (PressureLimits.inBounds_iff _).mpr ⟨hmin, hmax⟩
    exact Bool.false_ne_true (hout.2.symm.trans hin)
  · rw [follow_map_reading_shutoff_iff, PressureLimits.averaged_concat]
    constructor
    · intro hout
      refine (b.value_of_read input).resolve_right fun hraw => ?_
      have hin := PressureLimits.standard_inBounds_mix hlow hhigh hraw
      exact Bool.false_ne_true (hout.2.symm.trans hin)
    · intro hfault
      rw [hfault]
      exact ⟨by simp, PressureLimits.standard_outside_mix hhigh⟩

/-- A bus error right after a nominal reading sets the shutoff. -/
theorem spike_trips_on_bus_error :
    let b := ConverterBank.empty.withChip Pin.pressureConverter ⟨[none], []⟩
    let raw := (b.read Sensor.pt1.input).value
    let g : PressureGuard := ⟨[.start .pt1 .standard]⟩
    raw = conversionFault ∧
      (g.follow {} ([nominalRaw, raw].map (.reading .pt1))).2.shutoff = true := by
  intro b raw g
  have hfault : raw = conversionFault := rfl
  obtain ⟨-, hhigh⟩ := PressureLimits.standard_averaged_nominal 1
  refine ⟨hfault, ?_⟩
  rw [hfault, follow_map_reading_shutoff_iff]
  exact ⟨nofun, PressureLimits.standard_outside_mix hhigh⟩

end PressureGuard
end HotFire
