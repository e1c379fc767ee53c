import HotFire.Proofs.Rig.Pulses

/-! The valves when a burn ends. On the Generic and the Luna engine every line of a
burn is then at its safe level. The end of a Titan burn touches no valve: a valve is
safe unless a preset has moved it off its safe level since the last write to it. -/

namespace HotFire

/-- A Titan preset that takes the line of `w` off the level of `w`. -/
def Displaces (w : PinWrite) (c : Call) : Prop :=
  ∃ cmd label ws, c.deed = .command cmd ∧ cmd.titanPreset? = some (label, ws) ∧
    ∃ v ∈ ws, v.1 = w.1 ∧ v.2 ≠ w.2

namespace EngineProfile

theorem exists_safeLevel {p : EngineProfile} {pin : Pin}
    (h : pin ∈ (p.openLevels ++ p.endLevels).map Prod.fst) :
    ∃ level, (pin, level) ∈ p.safeLevels := by
  have hall : ∀ w ∈ p.openLevels ++ p.endLevels, ∃ v ∈ p.safeLevels, v.1 = w.1 := by
    cases p with
    | generic | titan => decide
    | luna plan => exact (by decide : ∀ w ∈ (luna none).openLevels ++ (luna none).endLevels,
        ∃ v ∈ (luna none).safeLevels, v.1 = w.1)
  obtain ⟨w, hw, rfl⟩ := List.mem_map.mp h
  obtain ⟨v, hv, he⟩ := hall w hw
  exact ⟨v.2, he ▸ hv⟩

theorem titan_safeLevels {w : PinWrite} (hw : w ∈ titan.safeLevels)
    (hnamed : w.1 ∈ (titan.openLevels ++ titan.endLevels).map Prod.fst) (hig : w.1 ≠ Pin.igniter) :
    w ∈ titan.openLevels := by
  revert w
  decide

/-- The end of a burn sets each of its lines to its safe level, the valves of the Titan
apart. -/
theorem endLevels_safe {p : EngineProfile} {w : PinWrite} (hw : w ∈ p.safeLevels)
    (hp : ¬ (p = .titan ∧ w.1 ≠ Pin.igniter)) : lastLevel w.1 p.endLevels = some w.2 := by
  revert w
  cases p with
  | generic => decide
  | titan => simp only [ne_eq, true_and]; decide
  | luna plan =>
    intro w hw _
    exact (by decide : ∀ w ∈ (luna none).safeLevels,
      lastLevel w.1 (luna none).endLevels = some w.2) w hw

/-- Of what every engine knows, a stop alone writes to a valve of a Titan burn. -/
theorem titan_openLevels {w : PinWrite} (hw : w ∈ titan.openLevels) :
    w.1 ∉ Pin.drivers ∧ w.1 ≠ Pin.igniter ∧ (w.1 = Pin.mainValve → w.2 = .low) ∧
      (∀ v ∈ titan.openLevels, v.1 = w.1 → v = w) ∧ w ∈ titan.safeLevels := by
  revert w
  decide

end EngineProfile

theorem Sequencer.Tidy.titan_writes {s : Sequencer} (h : s.Tidy)
    (hp : s.machine.context.profile = .titan) (ht : s.machine.context.train = none)
    {w : PinWrite} (hw : w ∈ EngineProfile.titan.openLevels) {now : Nat} {f : SafetyFlags} :
    ∀ v ∈ (s.step now f).writes, v.1 = w.1 → v = w := by
  obtain ⟨-, hig, -, hopen, -⟩ := EngineProfile.titan_openLevels hw
  have hm := h.move now f
  generalize s.step now f = r at hm ⊢
  intro v hv he
  cases hm with
  | openValves hs hr hpre =>
    rw [writing_writes, hp] at hv
    exact hopen v hv he
  | finish r hs hr =>
    rw [finishing_writes, BurnContext.closing, inputs_train, ht, hp] at hv
    obtain rfl : v = (Pin.igniter, .low) := List.mem_singleton.mp hv
    exact absurd he.symm hig
  | ignite hs hf =>
    rw [writing_writes, List.mem_singleton] at hv
    exact absurd (he.symm.trans (congrArg Prod.fst hv)) hig
  | flow hs hr hhot =>
    rw [writing_writes, BurnContext.pulse, inputs_train, ht] at hv
    cases hv
  | wait hs hf | burn hs hr ht | settle hs =>
    rw [writing_writes] at hv
    cases hv

namespace Rig

/-- The last call to write the line of `w` was a preset that took it off the level of
`w`. -/
def Displaced (r : Rig) (w : PinWrite) (calls : List Call) : Prop :=
  ∃ before c since, calls = before ++ c :: since ∧ Displaces w c ∧
    ∀ v ∈ (r.after (before ++ [c])).writes since, v.1 ≠ w.1

theorem displaced_concat_iff {r : Rig} {w : PinWrite} {calls : List Call} {c : Call} :
    r.Displaced w (calls ++ [c]) ↔
      Displaces w c ∨
        r.Displaced w calls ∧ ∀ v ∈ ((r.after calls).report c).writes, v.1 ≠ w.1 := by
  constructor
  · rintro ⟨before, d, since, hsplit, hd, hrest⟩
    rcases concat_eq_append_cons hsplit with ⟨since, rfl, rfl⟩ | ⟨rfl, rfl, rfl⟩
    · rw [writes_concat, ← after_cons_mid] at hrest
      exact .inr ⟨⟨before, d, since, rfl, hd, fun v hv => hrest v (List.mem_append_left _ hv)⟩,
        fun v hv => hrest v (List.mem_append_right _ hv)⟩
    · exact .inl hd
  · rintro (hd | ⟨⟨before, d, since, rfl, hd, hrest⟩, hlast⟩)
    · exact ⟨calls, c, [], rfl, hd, by simp [writes]⟩
    · refine ⟨before, d, since ++ [c], by simp, hd, ?_⟩
      rw [writes_concat, ← after_cons_mid]
      intro v hv
      exact (List.mem_append.mp hv).elim (hrest v) (hlast v)

section

variable {timing : BurnTiming} {loops : List SamplingLoop} {w : PinWrite}

theorem level_of_not_displaces {calls : List Call} (hw : w ∈ EngineProfile.titan.openLevels)
    {c : Call} (hd : ¬ Displaces w c) :
    ∀ v ∈ (((fresh .titan timing loops).after calls).report c).writes, v.1 = w.1 → v.2 = w.2 := by
  obtain ⟨hdriver, hig, hmain, -, -⟩ := EngineProfile.titan_openLevels hw
  have hs := after_sound .titan timing loops calls
  intro v hv he
  rcases c.step_or with ⟨now, rfl⟩ | hc
  · have htrain : ((fresh .titan timing loops).after calls).sequencer.machine.context.train =
        none := by
      cases ht : ((fresh .titan timing loops).after calls).sequencer.machine.context.train with
      | none => rfl
      | some t =>
        obtain ⟨_, _, _, plan, -, -, hplan, -⟩ := train_opening ht
        cases hplan
    rw [hs.tidy.titan_writes hs.burn_profile_eq htrain hw v hv he]
  · obtain ⟨cmd, hcmd, hv⟩ := mem_writes_of_not_step hc hv
    rcases Command.handle_writes_cases hv with ⟨-, h⟩ | ⟨-, rfl | rfl⟩ | ⟨-, label, ws, h, hm⟩ |
      ⟨plan, label, hp, -⟩
    · exact absurd (he ▸ h) hdriver
    · exact absurd he.symm hig
    · exact (hmain he.symm).symm
    · exact Decidable.byContradiction fun hne => hd ⟨cmd, label, ws, hcmd, h, v, hm, he, hne⟩
    · exact nomatch hs.profile_eq.symm.trans hp

theorem not_displaced_igniter {r : Rig} {level : Level} {calls : List Call} :
    ¬ r.Displaced (Pin.igniter, level) calls := by
  rintro ⟨before, c, since, -, ⟨cmd, label, ws, -, hpreset, v, hv, hline, -⟩, -⟩
  exact (Command.titanPreset_lines hpreset hv).1 hline

theorem lastLevel_of_displaces {calls : List Call} {c : Call} (hd : Displaces w c) :
    ∃ level, level ≠ w.2 ∧
      lastLevel w.1 (((fresh .titan timing loops).after calls).report c).writes = some level := by
  obtain ⟨cmd, label, ws, hdeed, hpreset, v, hv, hline, hlevel⟩ := hd
  have hs := after_sound .titan timing loops calls
  have hwrites : (((fresh .titan timing loops).after calls).report c).writes = ws := by
    rw [← Command.titanPreset_writes hpreset ((fresh .titan timing loops).after calls).flags]
    simp [report, Call.action, hdeed, act, command, hs.profile_eq]
  refine ⟨v.2, hlevel, ?_⟩
  rw [hwrites, ← hline]
  exact lastLevel_of_nodup (Command.titanPreset_nodup hpreset) hv

theorem valve_safe_iff {past : List PinWrite} (hw : w ∈ EngineProfile.titan.openLevels)
    (hpast : lastLevel w.1 past = some w.2) (calls : List Call) :
    lastLevel w.1 (past ++ (fresh .titan timing loops).writes calls) = some w.2 ↔
      ¬ (fresh .titan timing loops).Displaced w calls := by
  induction calls using List.reverseRecOn with
  | nil =>
    have hnone : ¬ (fresh .titan timing loops).Displaced w [] := by
      rintro ⟨before, c, since, hsplit, -⟩
      simp at hsplit
    simpa [writes, hpast] using hnone
  | append_singleton calls c ih =>
    rw [writes_concat, ← List.append_assoc, lastLevel_append, displaced_concat_iff]
    by_cases hd : Displaces w c
    · obtain ⟨level, hne, hlevel⟩ : ∃ level, level ≠ w.2 ∧
          lastLevel w.1 (((fresh .titan timing loops).after calls).report c).writes = some level :=
        lastLevel_of_displaces hd
      simp [hlevel, hne, hd]
    · have hkeeps : ∀ v ∈ (((fresh .titan timing loops).after calls).report c).writes,
          v.1 = w.1 → v.2 = w.2 := level_of_not_displaces hw hd
      cases hl : lastLevel w.1 (((fresh .titan timing loops).after calls).report c).writes with
      | none =>
        have huntouched := (lastLevel_eq_none_iff _ _).mp hl
        rw [Option.none_or, ih, or_iff_right hd, and_iff_left huntouched]
      | some level =>
        have hwrite := mem_of_lastLevel hl
        obtain rfl : level = w.2 := hkeeps _ hwrite rfl
        rw [Option.some_or, or_iff_right hd]
        exact iff_of_true rfl fun h => h.2 _ hwrite rfl

end

/-- A burn ends with each of its lines at its safe level, whatever ends it and from
whichever state, except for a Titan valve that a preset has moved off that level since
the last write to it. -/
theorem burn_ends_safe_iff (profile : EngineProfile) (timing : BurnTiming)
    (loops : List SamplingLoop) (past : List PinWrite) (calls : List Call) (now : Nat)
    (hpast : ∀ w ∈ profile.safeLevels, lastLevel w.1 past = some w.2)
    (hend : (((fresh profile timing loops).after calls).report ⟨now, .step⟩).state =
      some .ending) :
    let rig := fresh profile timing loops
    let ended := calls ++ [⟨now, .step⟩]
    ∀ pin ∈ (profile.openLevels ++ profile.endLevels).map Prod.fst,
      ∃ level, (pin, level) ∈ profile.safeLevels ∧
        (lastLevel pin (past ++ rig.writes ended) = some level ↔
          ¬ (profile = .titan ∧ rig.Displaced (pin, level) ended)) := by
  intro rig ended pin hpin
  obtain ⟨level, hsafe⟩ := profile.exists_safeLevel hpin
  refine ⟨level, hsafe, ?_⟩
  have hs := after_sound profile timing loops calls
  have hwrites : ((rig.after calls).report ⟨now, .step⟩).writes = _ :=
    hs.tidy.ending_writes (Option.some.inj hend)
  rw [hs.burn_profile_eq] at hwrites
  by_cases hvalve : profile = .titan ∧ pin ≠ Pin.igniter
  · obtain ⟨rfl, hig⟩ := hvalve
    have hopen := EngineProfile.titan_safeLevels hsafe hpin hig
    rw [and_iff_right rfl]
    exact valve_safe_iff hopen (hpast _ hsafe) ended
  · have hlast : lastLevel pin profile.endLevels = some level :=
      EngineProfile.endLevels_safe hsafe hvalve
    have hheld : ¬ (profile = .titan ∧ rig.Displaced (pin, level) ended) := by
      rintro ⟨hp, hd⟩
      obtain rfl : pin = Pin.igniter := Decidable.byContradiction fun hne => hvalve ⟨hp, hne⟩
      exact not_displaced_igniter hd
    rw [writes_concat, ← List.append_assoc, lastLevel_append, hwrites, lastLevel_append, hlast]
    exact iff_of_true rfl hheld

/-- A Titan is filled and then burns. The burn opens its valves, and what the preset
did to them no longer matters. -/
theorem burn_ends_safe_iff_of_filled :
    let rig := fresh .titan ⟨100, 1000, 200, 10⟩ []
    let past := EngineProfile.titan.safeLevels
    let calls : List Call := [⟨0, .command .fill⟩, ⟨10, .command .startIgnition⟩, ⟨10, .step⟩,
      ⟨110, .step⟩]
    let ended := calls ++ [⟨1010, .step⟩]
    (∀ w ∈ EngineProfile.titan.safeLevels, lastLevel w.1 past = some w.2) ∧
      ((rig.after calls).report ⟨1010, .step⟩).state = some .ending ∧
      lastLevel Pin.mainValve (past ++ rig.writes ended) = some .low ∧
      ¬ rig.Displaced (Pin.mainValve, .low) ended := by
  intro rig past calls ended
  have hpast : ∀ w ∈ EngineProfile.titan.safeLevels, lastLevel w.1 past = some w.2 := by decide
  have hend : ((rig.after calls).report ⟨1010, .step⟩).state = some .ending := by decide
  have hlow : lastLevel Pin.mainValve (past ++ rig.writes ended) = some .low := by decide
  obtain ⟨level, hsafe, hiff⟩ := burn_ends_safe_iff .titan ⟨100, 1000, 200, 10⟩ [] past calls 1010
    hpast hend Pin.mainValve (by decide)
  obtain rfl : level = .low := by
    revert hsafe
    cases level <;> decide
  exact ⟨hpast, hend, hlow, fun hd => hiff.mp hlow ⟨rfl, hd⟩⟩

/-- A Titan that is filled during its burn: the pressure shutoff ends the burn and
leaves the main valve on. -/
theorem shutoff_leaves_valve_of_fill :
    let rig := fresh .titan ⟨100, 1000, 200, 10⟩ []
    let past := EngineProfile.titan.safeLevels
    let calls : List Call := [⟨0, .command .startIgnition⟩, ⟨0, .step⟩, ⟨100, .step⟩,
      ⟨200, .command .fill⟩, ⟨200, .setShutoff true⟩]
    let ended := calls ++ [⟨300, .step⟩]
    Chronological ended ∧
      (∀ w ∈ EngineProfile.titan.safeLevels, lastLevel w.1 past = some w.2) ∧
      ((rig.after calls).report ⟨300, .step⟩).state = some .ending ∧
      (rig.after ended).sequencer.lastOutcome = some .pressureShutoff ∧
      Pin.mainValve ∈
        (EngineProfile.titan.openLevels ++ EngineProfile.titan.endLevels).map Prod.fst ∧
      (Pin.mainValve, Level.low) ∈ EngineProfile.titan.safeLevels ∧
      lastLevel Pin.mainValve (past ++ rig.writes ended) = some .high := by
  decide

end Rig

end HotFire
