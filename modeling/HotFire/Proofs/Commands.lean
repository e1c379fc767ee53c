import HotFire.Dispatch

/-! What commands do to the flags and to the lines. Only a stop touches the
igniter, and only a stop and the Titan presets touch the main valve. -/

namespace HotFire

/-- Whether the command is one for a driver channel. -/
def Command.drives : Command → Bool
  | .setDriver _ | .unsetDriver _ => true
  | _ => false

namespace Pin

theorem igniter_not_mem_drivers : igniter ∉ drivers := by decide

theorem mainValve_not_mem_drivers : mainValve ∉ drivers := by decide

end Pin

namespace Handled

theorem driver_flags (k : UInt8) (level : Level) (f : SafetyFlags) :
    (driver k level f).flags = f := by
  cases hk : Pin.drivers[k.toNat]? <;> simp [driver, ignored, hk]

theorem driver_writes_eq (k : UInt8) (level : Level) (f : SafetyFlags) :
    (driver k level f).writes = Pin.drivers[k.toNat]?.toList.map (·, level) := by
  cases hk : Pin.drivers[k.toNat]? <;> simp [driver, ignored, hk]

theorem driver_writes {k : UInt8} {level : Level} {f : SafetyFlags} {w : PinWrite}
    (hw : w ∈ (driver k level f).writes) : w.1 ∈ Pin.drivers := by
  rw [driver_writes_eq] at hw
  obtain ⟨pin, hpin, rfl⟩ := List.mem_map.mp hw
  exact List.mem_of_getElem? (Option.mem_toList.mp hpin)

theorem base_writes {profile : EngineProfile} {c : Command} {f : SafetyFlags} {w : PinWrite}
    (hw : w ∈ (base profile c f).writes) :
    c.drives = true ∧ w.1 ∈ Pin.drivers ∨
      c = .stopIgnition ∧ (w = (Pin.igniter, .low) ∨ w = (Pin.mainValve, .low)) := by
  cases c with
  | setDriver k | unsetDriver k => exact .inl ⟨rfl, driver_writes hw⟩
  | startIgnition =>
    obtain ⟨ignition, shutoff⟩ := f
    cases ignition <;> cases hw
  | stopIgnition =>
    change w ∈ [(Pin.igniter, Level.low), (Pin.mainValve, Level.low)] at hw
    exact .inr ⟨rfl, by simpa using hw⟩
  | _ => cases hw

end Handled

namespace Command

/-- The Titan presets that move the main valve. -/
def mainValvePresets : List Command := [leakCheck, fill, fillIdle, restValves]

/-- A start is accepted only when no burn is under way, and then also clears
the shutoff. -/
theorem handle_flags (profile : EngineProfile) (c : Command) (f : SafetyFlags) :
    (c.handle profile f).flags =
      match c with
      | .startIgnition => ⟨true, if f.ignition then f.shutoff else false⟩
      | .stopIgnition => ⟨false, f.shutoff⟩
      | _ => f := by
  obtain ⟨ignition, shutoff⟩ := f
  cases c with
  | setDriver k | unsetDriver k => cases profile <;> exact Handled.driver_flags k _ _
  | startIgnition => cases ignition <;> cases profile <;> rfl
  | _ => cases profile <;> rfl

theorem handle_start_applied_iff (profile : EngineProfile) (f : SafetyFlags) :
    (startIgnition.handle profile f).verdict = .applied ↔ f.ignition = false := by
  obtain ⟨ignition, shutoff⟩ := f
  have hv : (startIgnition.handle profile ⟨ignition, shutoff⟩).verdict =
      if ignition then .ignored else .applied := by
    cases ignition <;> cases profile <;> rfl
  cases ignition <;> simp [hv]

/-- The writes of a command are those of a driver channel, of a stop, or of a
preset of the engine. -/
theorem handle_writes_cases {profile : EngineProfile} {c : Command} {f : SafetyFlags}
    {w : PinWrite} (hw : w ∈ (c.handle profile f).writes) :
    c.drives = true ∧ w.1 ∈ Pin.drivers ∨
      c = .stopIgnition ∧ (w = (Pin.igniter, .low) ∨ w = (Pin.mainValve, .low)) ∨
      profile = .titan ∧ (∃ label ws, c.titanPreset? = some (label, ws) ∧ w ∈ ws) ∨
      (∃ plan label, profile = .luna plan ∧ c.lunaPreset? = some (label, w)) := by
  simp only [handle] at hw
  cases profile with
  | generic => exact (Handled.base_writes hw).imp_right .inl
  | titan =>
    cases hp : c.titanPreset? with
    | none =>
      simp only [Handled.preset?, hp, Option.map_none, Option.getD_none] at hw
      exact (Handled.base_writes hw).imp_right .inl
    | some preset =>
      simp only [Handled.preset?, hp, Option.map_some, Option.getD_some] at hw
      exact .inr (.inr (.inl ⟨rfl, preset.1, preset.2, rfl, hw⟩))
  | luna plan =>
    cases hp : c.lunaPreset? with
    | none =>
      simp only [Handled.preset?, hp, Option.map_none, Option.getD_none] at hw
      exact (Handled.base_writes hw).imp_right .inl
    | some preset =>
      simp only [Handled.preset?, hp, Option.map_some, Option.getD_some,
        List.mem_singleton] at hw
      exact .inr (.inr (.inr ⟨plan, preset.1, rfl, by rw [hw]⟩))

theorem titanPreset_lines {c : Command} {label : String} {ws : List PinWrite}
    (h : c.titanPreset? = some (label, ws)) {w : PinWrite} (hw : w ∈ ws) :
    w.1 ≠ Pin.igniter ∧
      (w.1 = Pin.mainValve → c ∈ mainValvePresets) := by
  cases c <;> simp only [titanPreset?, Option.some.injEq, Prod.mk.injEq, reduceCtorEq] at h <;>
    obtain ⟨-, rfl⟩ := h <;> simp at hw <;> rcases hw with rfl | rfl | rfl <;> decide

theorem titanPreset_nodup {c : Command} {label : String} {ws : List PinWrite}
    (h : c.titanPreset? = some (label, ws)) : (ws.map Prod.fst).Nodup := by
  cases c <;> simp only [titanPreset?, Option.some.injEq, Prod.mk.injEq, reduceCtorEq] at h <;>
    obtain ⟨-, rfl⟩ := h <;> decide

theorem titanPreset_writes {c : Command} {label : String} {ws : List PinWrite}
    (h : c.titanPreset? = some (label, ws)) (f : SafetyFlags) :
    (c.handle .titan f).writes = ws := by
  simp [handle, Handled.preset?, h]

theorem lunaPreset_lines {c : Command} {label : String} {w : PinWrite}
    (h : c.lunaPreset? = some (label, w)) : w.1 ≠ Pin.igniter ∧ w.1 ≠ Pin.mainValve := by
  cases c <;> simp only [lunaPreset?, Option.some.injEq, Prod.mk.injEq, reduceCtorEq] at h <;>
    obtain ⟨-, rfl⟩ := h <;> decide

theorem handle_writes_igniter {profile : EngineProfile} {c : Command} {f : SafetyFlags}
    {w : PinWrite} (hw : w ∈ (c.handle profile f).writes) (hp : w.1 = Pin.igniter) :
    c = .stopIgnition ∧ w.2 = .low := by
  rcases handle_writes_cases hw with ⟨-, h⟩ | ⟨hc, rfl | rfl⟩ | ⟨-, label, ws, h, hm⟩ |
    ⟨plan, label, -, h⟩
  · exact absurd (hp ▸ h) Pin.igniter_not_mem_drivers
  · exact ⟨hc, rfl⟩
  · exact ⟨hc, rfl⟩
  · exact absurd hp (titanPreset_lines h hm).1
  · exact absurd hp (lunaPreset_lines h).1

theorem handle_writes_mainValve {profile : EngineProfile} {c : Command} {f : SafetyFlags}
    {w : PinWrite} (hw : w ∈ (c.handle profile f).writes) (hp : w.1 = Pin.mainValve) :
    c = .stopIgnition ∧ w.2 = .low ∨
      profile = .titan ∧ c ∈ mainValvePresets := by
  rcases handle_writes_cases hw with ⟨-, h⟩ | ⟨hc, rfl | rfl⟩ | ⟨ht, label, ws, h, hm⟩ |
    ⟨plan, label, -, h⟩
  · exact absurd (hp ▸ h) Pin.mainValve_not_mem_drivers
  · exact .inl ⟨hc, rfl⟩
  · exact .inl ⟨hc, rfl⟩
  · exact .inr ⟨ht, (titanPreset_lines h hm).2 hp⟩
  · exact absurd hp (lunaPreset_lines h).2

theorem handle_stop_writes (profile : EngineProfile) (f : SafetyFlags) :
    (stopIgnition.handle profile f).writes = [(Pin.igniter, .low), (Pin.mainValve, .low)] := by
  cases profile <;> rfl

end Command

end HotFire
