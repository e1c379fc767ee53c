import HotFire.Proofs.Sampling.Guard

/-! When a pass leaves the shutoff set. The loop of a group guards the sensors that
carry limits; which these are, no pass changes. -/

namespace HotFire

namespace SensorGroup

/-- The sensors of the group that carry limits. -/
def limited (g : SensorGroup) : List (Sensor × PressureLimits) :=
  g.sensors.filterMap fun spec => spec.limits.map (spec.sensor, ·)

theorem mem_limited {g : SensorGroup} {x : Sensor × PressureLimits} :
    x ∈ g.limited ↔ ∃ spec ∈ g.sensors, spec.sensor = x.1 ∧ spec.limits = some x.2 := by
  obtain ⟨s, limits⟩ := x
  simp only [limited, List.mem_filterMap, Option.map_eq_some_iff, Prod.mk.injEq]
  constructor
  · rintro ⟨spec, hm, _, hl, hs, rfl⟩
    exact ⟨spec, hm, hs, hl⟩
  · rintro ⟨spec, hm, hs, hl⟩
    exact ⟨spec, hm, limits, hl, hs, rfl⟩

theorem limited_eq_nil_iff {g : SensorGroup} :
    g.limited = [] ↔ ∀ spec ∈ g.sensors, spec.limits = none := by
  simp [limited]

theorem limited_sensors_nodup {g : SensorGroup}
    (hdistinct : (g.sensors.map (·.sensor)).Nodup) : (g.limited.map (·.1)).Nodup := by
  have hsub : ∀ specs : List SensorSpec,
      ((specs.filterMap fun spec => spec.limits.map (spec.sensor, ·)).map (·.1)).Sublist
        (specs.map (·.sensor)) := by
    intro specs
    induction specs with
    | nil => simp
    | cons spec specs ih =>
      cases hl : spec.limits with
      | none => simpa [hl] using ih.cons _
      | some limits => simpa [hl] using ih
  exact hdistinct.sublist (hsub g.sensors)

end SensorGroup

theorem PressureGuard.ofSpecs?_watched {g : SensorGroup}
    (hsize : g.sensors.length ≤ SensorGroup.maxSensors) :
    (ofSpecs? g.sensors).map watched = if g.limited = [] then none else some g.limited := by
  have hmap : (g.sensors.filterMap fun s => s.limits.map (GuardChannel.start s.sensor)).map
      (fun c => (c.sensor, c.limits)) = g.limited := by
    rw [List.map_filterMap, SensorGroup.limited]
    congr 1
    funext s
    cases s.limits <;> rfl
  have hlen : (g.sensors.filterMap fun s => s.limits.map (GuardChannel.start s.sensor)).length ≤ 8 :=
    Nat.le_trans (List.length_filterMap_le _ _) hsize
  rw [ofSpecs?, List.take_of_length_le hlen]
  generalize g.sensors.filterMap (fun s => s.limits.map (GuardChannel.start s.sensor)) = cs at hmap
  cases cs with
  | nil => simp [← hmap]
  | cons c cs => simp [← hmap, watched]

namespace SamplingLoop

/-- What no pass changes: the sensors of a loop, and those that are guarded. -/
def shape (l : SamplingLoop) : List SensorSpec × Option (List (Sensor × PressureLimits)) :=
  (l.slots.map (·.spec), l.guard.map (·.watched))

@[simp] theorem pass_shape (l : SamplingLoop) (cs : List Conversion) (f : SafetyFlags) :
    (l.pass cs f).loop.shape = l.shape := by
  rw [shape, shape, pass_specs]
  cases hg : l.guard with
  | none => rw [(pass_unguarded hg cs f).1]
  | some g => rw [(pass_guarded hg cs f).1]; simp

theorem ofGroup_shape {g : SensorGroup} (hsize : g.sensors.length ≤ SensorGroup.maxSensors)
    (enabled : Bool) :
    (ofGroup g enabled).shape =
      (g.sensors, if enabled = true ∧ g.limited ≠ [] then some g.limited else none) := by
  have hw := PressureGuard.ofSpecs?_watched hsize
  cases enabled <;> by_cases hl : g.limited = [] <;>
    simp [shape, ofGroup, SampleSlot.ofSpec, hw, hl, Function.comp_def]

theorem ofGroup_unguarded {g : SensorGroup} {enabled : Bool}
    (h : enabled = false ∨ g.limited = []) : (ofGroup g enabled).guard = none := by
  rcases h with rfl | hl
  · rfl
  · have hnone : g.sensors.filterMap (fun s => s.limits.map (GuardChannel.start s.sensor)) = [] := by
      rw [List.filterMap_eq_nil_iff]
      intro spec hm
      rw [SensorGroup.limited_eq_nil_iff.mp hl spec hm]
      rfl
    cases enabled <;> simp [ofGroup, PressureGuard.ofSpecs?, hnone]

/-- A guarded average of the group is outside the bounds of its sensor. -/
def Exceeds (l : SamplingLoop) (g : SensorGroup) : Prop :=
  ∃ spec ∈ g.sensors, ∃ limits average, spec.limits = some limits ∧
    l.guard.bind (·.average? spec.sensor) = some average ∧ limits.inBounds average = false

theorem readings_sensors {l : SamplingLoop} {cs : List Conversion}
    (hcs : cs.length = l.slots.length) :
    (l.readings cs).map (·.1) = l.slots.map (·.spec.sensor) := by
  have hz : (l.slots.zip cs).map (·.1) = l.slots := by
    rw [zip_map_fst, hcs, List.take_length]
  calc (l.readings cs).map (·.1)
      = ((l.slots.zip cs).map (·.1)).map (·.spec.sensor) := by simp [readings]
    _ = l.slots.map (·.spec.sensor) := by rw [hz]

theorem guard_sensors_nodup {g : SensorGroup} (hdistinct : (g.sensors.map (·.sensor)).Nodup)
    {pg : PressureGuard} (hw : pg.watched = g.limited) : pg.sensors.Nodup := by
  rw [pg.sensors_eq_watched, hw]
  exact SensorGroup.limited_sensors_nodup hdistinct

theorem exceeds_iff {g : SensorGroup} (hdistinct : (g.sensors.map (·.sensor)).Nodup)
    {l : SamplingLoop} {pg : PressureGuard} (hg : l.guard = some pg)
    (hw : pg.watched = g.limited) :
    l.Exceeds g ↔ ∃ c ∈ pg.channels, c.limits.inBounds c.average = false := by
  have hnd := guard_sensors_nodup hdistinct hw
  have hmem : ∀ x, x ∈ g.limited ↔ ∃ c ∈ pg.channels, (c.sensor, c.limits) = x := by
    intro x
    rw [← hw]
    exact List.mem_map
  simp only [Exceeds, hg, Option.bind_some]
  constructor
  · rintro ⟨spec, hm, limits, average, hlim, hav, hout⟩
    obtain ⟨c, hc, he⟩ := (hmem (spec.sensor, limits)).mp
      (SensorGroup.mem_limited.mpr ⟨spec, hm, rfl, hlim⟩)
    obtain ⟨hsensor, rfl⟩ := Prod.mk.inj he
    rw [PressureGuard.average?, ← hsensor, PressureGuard.channel?_of_mem hnd hc] at hav
    have heq : c.average = average := Option.some.inj hav
    exact ⟨c, hc, by rw [heq]; exact hout⟩
  · rintro ⟨c, hc, hout⟩
    obtain ⟨spec, hm, hsensor, hlim⟩ := SensorGroup.mem_limited.mp ((hmem _).mpr ⟨c, hc, rfl⟩)
    refine ⟨spec, hm, c.limits, c.average, hlim, ?_, hout⟩
    rw [PressureGuard.average?, hsensor, PressureGuard.channel?_of_mem hnd hc]
    rfl

/-- A pass over a group with guarded sensors leaves the shutoff at what the
averages then say. -/
theorem pass_shutoff_iff {g : SensorGroup} (hdistinct : (g.sensors.map (·.sensor)).Nodup)
    (hlimits : g.limited ≠ []) {l : SamplingLoop} (hl : l.shape = (g.sensors, some g.limited))
    {cs : List Conversion} (hcs : cs.length = g.sensors.length) (f : SafetyFlags) :
    (l.pass cs f).flags.shutoff = true ↔ (l.pass cs f).loop.Exceeds g := by
  obtain ⟨hspecs, hwatched⟩ := Prod.mk.inj hl
  obtain ⟨pg, hg, hw⟩ := Option.map_eq_some_iff.mp hwatched
  obtain ⟨hloop, hflags⟩ := pass_guarded hg cs f
  have hnd := guard_sensors_nodup hdistinct hw
  have hne : pg.channels ≠ [] := by
    intro hnil
    exact hlimits (by rw [← hw, PressureGuard.watched, hnil, List.map_nil])
  have hall : ∀ s ∈ pg.sensors, s ∈ (l.readings cs).map (·.1) := by
    intro s hs
    rw [pg.sensors_eq_watched, hw] at hs
    obtain ⟨x, hx, rfl⟩ := List.mem_map.mp hs
    obtain ⟨spec, hm, hsensor, -⟩ := SensorGroup.mem_limited.mp hx
    rw [readings_sensors (by rw [hcs, ← hspecs, List.length_map]), ← hsensor]
    rw [← hspecs] at hm
    obtain ⟨slot, hslot, rfl⟩ := List.mem_map.mp hm
    exact List.mem_map.mpr ⟨slot, hslot, rfl⟩
  rw [hflags, PressureGuard.watchAll_shutoff_iff hnd hne hall,
    exceeds_iff hdistinct hloop (by rw [PressureGuard.watchAll_watched, hw])]

end SamplingLoop

end HotFire
