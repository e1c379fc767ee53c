import HotFire.Proofs.Rig.Calls
import HotFire.Proofs.Sampling.Alarm

/-! The pressure interlock. With one guarded loop, the shutoff that a step meets
is the word of the last call to decide it, a pass of that loop or an accepted
start. -/

namespace HotFire

theorem Sequencer.Tidy.shutoff_ends_iff {s : Sequencer} (h : s.Tidy) (now : Nat)
    (f : SafetyFlags) :
    (s.step now f).sequencer.state = .ending ∧
        (s.step now f).sequencer.lastOutcome = some .pressureShutoff ↔
      (s.state = .igniting ∨ s.state = .mainValveOpen) ∧ f.ignition = true ∧ f.shutoff = true ∧
        s.machine.context.timing.shutoffArm ≤ now - s.machine.context.t0 := by
  have hm := h.move now f
  generalize s.step now f = r at hm ⊢
  have hno : (s.inputs now f).abortReason = none →
      ¬ (f.ignition = true ∧ f.shutoff = true ∧
        s.machine.context.timing.shutoffArm ≤ now - s.machine.context.t0) := by
    rintro ha ⟨-, hs, ht⟩
    exact ((BurnContext.abortReason_eq_none_iff _).mp ha).2 ⟨hs, ht⟩
  cases hm with
  | wait hs hf => simp [hs]
  | ignite hs hf => simp [hs]
  | burn hs hr ht => simp [hno hr]
  | openValves hs hr ht => simp [hno hr]
  | flow hs hr ht => simp [hno hr]
  | settle hs => simp [hs]
  | finish r hs hr =>
    have hreason := BurnContext.abortReason_eq_shutoff_iff (s.inputs now f)
    rw [BurnContext.endReason?_eq_some hr]
    cases ha : (s.inputs now f).abortReason <;> rw [ha] at hreason <;>
      simpa [hs] using hreason

namespace Rig

theorem act_shapes (r : Rig) (c : Call) :
    (r.act c.action).1.loops.map SamplingLoop.shape = r.loops.map SamplingLoop.shape := by
  obtain ⟨time, deed⟩ := c
  cases deed with
  | command _ | setShutoff _ | step => rfl
  | pass i cs =>
    cases hl : r.loops[i]? with
    | none => simp [Call.action, act, pass, hl]
    | some l =>
      obtain ⟨hi, rfl⟩ := List.getElem?_eq_some_iff.mp hl
      have hm : i < (r.loops.map SamplingLoop.shape).length := by simpa using hi
      have hself := List.set_getElem_self hm
      rw [List.getElem_map] at hself
      simpa [Call.action, act, pass, hl, List.map_set] using hself

/-- A call that decides the shutoff anew. -/
def Decides (r : Rig) (k : Nat) (c : Call) : Prop :=
  (∃ cs, c.deed = .pass k cs) ∨ r.Starts c

/-- The last call to decide the shutoff was a pass, after which a guarded average
was out of bounds. -/
def Alarmed (r : Rig) (k : Nat) (g : SensorGroup) (calls : List Call) : Prop :=
  ∃ before pass since cs l, calls = before ++ pass :: since ∧ pass.deed = .pass k cs ∧
    (r.after (before ++ [pass])).loops[k]? = some l ∧ l.Exceeds g ∧
    ∀ u c v, since = u ++ c :: v → ¬ (r.after (before ++ pass :: u)).Decides k c

theorem alarmed_concat_iff {r : Rig} {k : Nat} {g : SensorGroup} {calls : List Call} {c : Call} :
    r.Alarmed k g (calls ++ [c]) ↔
      (∃ cs l, c.deed = .pass k cs ∧ (r.after (calls ++ [c])).loops[k]? = some l ∧
          l.Exceeds g) ∨
        ¬ (r.after calls).Decides k c ∧ r.Alarmed k g calls := by
  constructor
  · rintro ⟨before, pass, since, cs, l, hsplit, hd, hl, hx, hlast⟩
    rcases concat_eq_append_cons hsplit with ⟨b, rfl, rfl⟩ | ⟨rfl, rfl, rfl⟩
    · refine .inr ⟨hlast b c [] rfl, before, pass, b, cs, l, rfl, hd, hl, hx, ?_⟩
      rintro u x v rfl
      exact hlast u x (v ++ [c]) (by simp)
    · exact .inl ⟨cs, l, hd, hl, hx⟩
  · rintro (⟨cs, l, hd, hl, hx⟩ | ⟨hno, before, pass, since, cs, l, rfl, hd, hl, hx, hlast⟩)
    · exact ⟨calls, c, [], cs, l, rfl, hd, hl, hx, by simp⟩
    · refine ⟨before, pass, since ++ [c], cs, l, by simp, hd, hl, hx, ?_⟩
      intro u x v hsplit
      rcases concat_eq_append_cons hsplit with ⟨v', rfl, he⟩ | ⟨rfl, rfl, rfl⟩
      · exact hlast u x v' he
      · exact hno

theorem pass_guarded {r : Rig} {k : Nat} {l : SamplingLoop} (hl : r.loops[k]? = some l)
    (cs : List Conversion) :
    (r.pass k cs).1.flags = (l.pass cs r.flags).flags ∧
      (r.pass k cs).1.loops[k]? = some (l.pass cs r.flags).loop := by
  obtain ⟨hk, rfl⟩ := List.getElem?_eq_some_iff.mp hl
  simp [pass, hk]

theorem pass_unguarded {r : Rig} {i : Nat} (h : ∀ l, r.loops[i]? = some l → l.guard = none)
    (cs : List Conversion) : (r.pass i cs).1.flags = r.flags := by
  cases hl : r.loops[i]? with
  | none => simp [pass, hl]
  | some l =>
    have hf := (SamplingLoop.pass_unguarded (h l hl) cs r.flags).2
    simpa [pass, hl] using hf

/-- Without a guard at work only an accepted start touches the shutoff. -/
theorem act_shutoff_iff {r : Rig} (ht : r.sequencer.Tidy) {c : Call}
    (hset : ∀ on, c.deed ≠ .setShutoff on)
    (hpass : ∀ i cs l, c.deed = .pass i cs → r.loops[i]? = some l → l.guard = none) :
    (r.act c.action).1.flags.shutoff = true ↔ ¬ r.Starts c ∧ r.flags.shutoff = true := by
  rw [starts_iff]
  obtain ⟨time, deed⟩ := c
  cases deed with
  | setShutoff on => exact absurd rfl (hset on)
  | step =>
    have hf : (r.act (.step time)).1.flags.shutoff = r.flags.shutoff :=
      Sequencer.step_shutoff ht time r.flags
    simp [Call.action, hf]
  | command cmd =>
    have hf : (r.act (.command cmd)).1.flags = (cmd.handle r.profile r.flags).flags := rfl
    simp only [Call.action, hf, Command.handle_flags]
    cases cmd <;> cases r.flags.ignition <;> simp
  | pass i cs =>
    have hf := pass_unguarded (fun l => hpass i cs l rfl) cs
    simp [Call.action, act, hf]

/-- Loop `k` guards the sensors of its group that carry limits, and no other loop
guards any. -/
structure Guarding (k : Nat) (g : SensorGroup) (r : Rig) : Prop where
  tidy : r.sequencer.Tidy
  own : (r.loops.map SamplingLoop.shape)[k]? = some (g.sensors, some g.limited)
  others : ∀ i shape, (r.loops.map SamplingLoop.shape)[i]? = some shape → i ≠ k → shape.2 = none

theorem Guarding.act {k : Nat} {g : SensorGroup} {r : Rig} (h : r.Guarding k g) (c : Call) :
    (r.act c.action).1.Guarding k g := by
  obtain ⟨ht, hown, hothers⟩ := h
  rw [← r.act_shapes c] at hown hothers
  exact ⟨act_tidy ht c, hown, hothers⟩

theorem Guarding.act_shutoff_iff {k : Nat} {g : SensorGroup} {r : Rig} (h : r.Guarding k g)
    (hdistinct : (g.sensors.map (·.sensor)).Nodup) (hlimits : g.limited ≠ []) {c : Call}
    (hset : ∀ on, c.deed ≠ .setShutoff on)
    (hpass : ∀ cs, c.deed = .pass k cs → cs.length = g.sensors.length) :
    (r.act c.action).1.flags.shutoff = true ↔
      (∃ cs l, c.deed = .pass k cs ∧ (r.act c.action).1.loops[k]? = some l ∧ l.Exceeds g) ∨
        ¬ r.Decides k c ∧ r.flags.shutoff = true := by
  by_cases hk : ∃ cs, c.deed = .pass k cs
  · obtain ⟨cs, hd⟩ := hk
    obtain ⟨l, hl, hshape⟩ := Option.map_eq_some_iff.mp (List.getElem?_map ▸ h.own)
    obtain ⟨hf, hloop⟩ := pass_guarded hl cs
    have hiff := SamplingLoop.pass_shutoff_iff hdistinct hlimits hshape (hpass cs hd) r.flags
    simp [Call.action, hd, Rig.act, hf, hloop, hiff, Decides]
  · have hnone : ∀ i cs l, c.deed = .pass i cs → r.loops[i]? = some l → l.guard = none := by
      intro i cs l hd hl
      have hi : i ≠ k := fun hi => hk ⟨cs, hi ▸ hd⟩
      have hs := h.others i l.shape (by rw [List.getElem?_map, hl]; rfl) hi
      exact Option.map_eq_none_iff.mp hs
    have hno : ∀ cs l, ¬ (c.deed = .pass k cs ∧ (r.act c.action).1.loops[k]? = some l ∧
        l.Exceeds g) := fun cs _ hd => hk ⟨cs, hd.1⟩
    rw [Rig.act_shutoff_iff h.tidy hset hnone, Decides]
    simp only [hno, exists_false, hk, false_or]

/-- The shutoff is set exactly if the last call to decide it was an alarming pass. -/
theorem Guarding.shutoff_iff_alarmed {k : Nat} {g : SensorGroup} {r : Rig} (h : r.Guarding k g)
    (hclear : r.flags.shutoff = false) (hdistinct : (g.sensors.map (·.sensor)).Nodup)
    (hlimits : g.limited ≠ []) {calls : List Call}
    (hset : ∀ c ∈ calls, ∀ on, c.deed ≠ .setShutoff on)
    (hpass : ∀ c ∈ calls, ∀ cs, c.deed = .pass k cs → cs.length = g.sensors.length) :
    (r.after calls).flags.shutoff = true ↔ r.Alarmed k g calls := by
  induction calls using List.reverseRecOn with
  | nil => simp [hclear, Alarmed]
  | append_singleton calls c ih =>
    have hg : (r.after calls).Guarding k g := after_keeps h (fun _ c hc => hc.act c) calls
    have hi := ih (fun x hx => hset x (by simp [hx])) (fun x hx => hpass x (by simp [hx]))
    rw [alarmed_concat_iff, after_concat, ← hi]
    exact hg.act_shutoff_iff hdistinct hlimits (hset c (by simp)) (hpass c (by simp))

theorem after_shapes (r : Rig) (calls : List Call) :
    (r.after calls).loops.map SamplingLoop.shape = r.loops.map SamplingLoop.shape := by
  induction calls generalizing r with
  | nil => rfl
  | cons c calls ih => rw [after_cons, ih, act_shapes]

/-- The rig that samples these groups. -/
def sampling (profile : EngineProfile) (timing : BurnTiming) (groups : List SensorGroup)
    (enabled : Bool) : Rig :=
  fresh profile timing (groups.map (SamplingLoop.ofGroup · enabled))

theorem sampling_sound (profile : EngineProfile) (timing : BurnTiming)
    (groups : List SensorGroup) (enabled : Bool) (calls : List Call) :
    Sound profile timing ((sampling profile timing groups enabled).after calls) :=
  after_sound profile timing _ calls

section

variable {profile : EngineProfile} {timing : BurnTiming} {groups : List SensorGroup}

theorem sampling_shapes (profile : EngineProfile) (timing : BurnTiming)
    (groups : List SensorGroup) (enabled : Bool) (i : Nat) :
    ((sampling profile timing groups enabled).loops.map SamplingLoop.shape)[i]? =
      groups[i]?.map fun g => (SamplingLoop.ofGroup g enabled).shape := by
  show ((groups.map (SamplingLoop.ofGroup · enabled)).map SamplingLoop.shape)[i]? = _
  simp [Function.comp_def]

theorem after_unguarded {i : Nat} {enabled : Bool}
    (h : ∀ g, groups[i]? = some g → enabled = false ∨ g.limited = []) (calls : List Call)
    {l : SamplingLoop}
    (hl : ((sampling profile timing groups enabled).after calls).loops[i]? = some l) :
    l.guard = none := by
  have hshape := sampling_shapes profile timing groups enabled i
  rw [← after_shapes _ calls, List.getElem?_map, hl, eq_comm, Option.map_some,
    Option.map_eq_some_iff] at hshape
  obtain ⟨g, hg, he⟩ := hshape
  have hnone : l.shape.2 = none := by
    rw [← he, SamplingLoop.shape, SamplingLoop.ofGroup_unguarded (h g hg)]
    rfl
  exact Option.map_eq_none_iff.mp hnone

theorem sampling_guarding {k : Nat} {g : SensorGroup} (hk : groups[k]? = some g)
    (hsize : g.sensors.length ≤ SensorGroup.maxSensors) (hlimits : g.limited ≠ [])
    (hothers : ∀ i o, groups[i]? = some o → i ≠ k → o.limited = []) :
    (sampling profile timing groups true).Guarding k g := by
  refine ⟨Sequencer.start_tidy profile timing, ?_, ?_⟩
  · rw [sampling_shapes, hk]
    simp [SamplingLoop.ofGroup_shape hsize, hlimits]
  · intro i shape hi hne
    rw [sampling_shapes] at hi
    obtain ⟨o, ho, rfl⟩ := Option.map_eq_some_iff.mp hi
    rw [SamplingLoop.shape, SamplingLoop.ofGroup_unguarded (.inr (hothers i o ho hne))]
    rfl

theorem disabled_shutoff {calls : List Call} (hset : ∀ c ∈ calls, ∀ on, c.deed ≠ .setShutoff on) :
    ((sampling profile timing groups false).after calls).flags.shutoff = false := by
  induction calls using List.reverseRecOn with
  | nil => rfl
  | append_singleton calls c ih =>
    have hi := ih fun x hx => hset x (by simp [hx])
    have ht := (sampling_sound profile timing groups false calls).tidy
    have hiff := act_shutoff_iff ht (hset c (by simp)) fun _ _ _ _ hl =>
      after_unguarded (fun _ _ => .inl rfl) calls hl
    rw [after_concat]
    simpa [hi] using hiff

end

/-- A step at `now` ends the burn for its pressure. -/
def EndsByShutoff (r : Rig) (now : Nat) : Prop :=
  (r.report ⟨now, .step⟩).state = some .ending ∧
    (r.act (.step now)).1.sequencer.lastOutcome = some .pressureShutoff

theorem endsByShutoff_iff {r : Rig} (h : r.sequencer.Tidy) (now : Nat) :
    r.EndsByShutoff now ↔
      (r.sequencer.state = .igniting ∨ r.sequencer.state = .mainValveOpen) ∧
        r.flags.ignition = true ∧ r.flags.shutoff = true ∧
        r.sequencer.machine.context.timing.shutoffArm ≤
          now - r.sequencer.machine.context.t0 := by
  rw [← h.shutoff_ends_iff now r.flags]
  simp [EndsByShutoff, report, Call.action, act, step]

/-- The interlock end to end, for one guarded loop among any others. A step of an
armed burn ends it for its pressure exactly when, of the passes of that loop and
the accepted starts, the last is a pass that left an average out of bounds. -/
theorem endsByShutoff_iff_alarmed (profile : EngineProfile) (timing : BurnTiming)
    (groups : List SensorGroup) (enabled : Bool) (k : Nat) (g : SensorGroup)
    (calls : List Call) (now : Nat) (hk : groups[k]? = some g)
    (hsize : g.sensors.length ≤ SensorGroup.maxSensors)
    (hdistinct : (g.sensors.map (·.sensor)).Nodup)
    (hlimits : ∃ spec ∈ g.sensors, spec.limits ≠ none)
    (hothers : ∀ i o, groups[i]? = some o → i ≠ k → ∀ spec ∈ o.sensors, spec.limits = none)
    (hset : ∀ c ∈ calls, ∀ on, c.deed ≠ .setShutoff on)
    (hpass : ∀ c ∈ calls, ∀ cs, c.deed = .pass k cs → cs.length = g.sensors.length) :
    let start := sampling profile timing groups enabled
    let r := start.after calls
    let elapsed := now - r.sequencer.machine.context.t0
    (enabled = true → r.sequencer.state = .igniting ∨ r.sequencer.state = .mainValveOpen →
        r.flags.ignition = true → timing.shutoffArm ≤ elapsed →
        (r.EndsByShutoff now ↔ start.Alarmed k g calls)) ∧
      (elapsed < timing.shutoffArm → ¬ r.EndsByShutoff now) ∧
      (enabled = false → ¬ r.EndsByShutoff now) ∧
      ∀ i o cs, groups[i]? = some o → (∀ spec ∈ o.sensors, spec.limits = none) →
        (r.act (.pass i cs)).1.flags = r.flags := by
  intro start r elapsed
  have hsound : Sound profile timing r := sampling_sound profile timing groups enabled calls
  have hends := endsByShutoff_iff hsound.tidy now
  rw [hsound.timing_eq] at hends
  refine ⟨?_, ?_, ?_, ?_⟩
  · rintro rfl hburn hi harm
    have hlim : g.limited ≠ [] := by
      obtain ⟨spec, hm, hne⟩ := hlimits
      exact fun hnil => hne (SensorGroup.limited_eq_nil_iff.mp hnil spec hm)
    have hguard : start.Guarding k g := sampling_guarding hk hsize hlim fun i o ho hne =>
      SensorGroup.limited_eq_nil_iff.mpr (hothers i o ho hne)
    rw [hends, ← hguard.shutoff_iff_alarmed rfl hdistinct hlim hset hpass]
    exact ⟨fun h => h.2.2.1, fun h => ⟨hburn, hi, h, harm⟩⟩
  · intro hlt hend
    exact absurd (hends.mp hend).2.2.2 (Nat.not_le_of_lt hlt)
  · rintro rfl hend
    have hoff : r.flags.shutoff = false := disabled_shutoff hset
    rw [hoff] at hends
    exact absurd (hends.mp hend).2.2.1 (by simp)
  · intro i o cs ho hnone
    refine pass_unguarded (fun l => after_unguarded (fun o' ho' => .inr ?_) calls) cs
    rw [ho] at ho'
    cases ho'
    exact SensorGroup.limited_eq_nil_iff.mpr hnone

/-- A burn old enough for the interlock, watched by one of two transducers, with a
loop of thermocouples beside it. -/
theorem endsByShutoff_iff_alarmed_of_pass :
    let limits : PressureLimits := ⟨-0.3, 1108.1, 300.0, 800.0, 700.0⟩
    let pressures : SensorGroup :=
      ⟨"PT", 100, [(SensorSpec.ofSensor .pt1).withLimits limits, SensorSpec.ofSensor .pt2]⟩
    let temperatures : SensorGroup := ⟨"TC", 10, [SensorSpec.ofSensor .tc1]⟩
    let start := sampling .generic ⟨100, 1000, 50, 10⟩ [temperatures, pressures] true
    let calls : List Call := [⟨0, .command .startIgnition⟩, ⟨5, .step⟩,
      ⟨20, .pass 1 [⟨361, 20, none⟩, ⟨361, 21, none⟩]⟩, ⟨30, .pass 0 [⟨100, 30, none⟩]⟩]
    let r := start.after calls
    r.sequencer.state = .igniting ∧ r.flags.ignition = true ∧
      50 ≤ 60 - r.sequencer.machine.context.t0 ∧
      (r.EndsByShutoff 60 ↔ start.Alarmed 1 pressures calls) := by
  intro limits pressures temperatures start calls r
  have hother : ∀ i o, [temperatures, pressures][i]? = some o → i ≠ 1 →
      ∀ spec ∈ o.sensors, spec.limits = none := by
    intro i o ho hne
    match i with
    | 0 =>
      cases ho
      simp [temperatures, SensorSpec.ofSensor]
    | 1 => exact absurd rfl hne
    | i + 2 => cases ho
  have hset : ∀ c ∈ calls, ∀ on, c.deed ≠ .setShutoff on := by simp [calls]
  have hpass : ∀ c ∈ calls, ∀ cs, c.deed = .pass 1 cs → cs.length = pressures.sensors.length := by
    simp [calls, pressures]
  obtain ⟨hends, -⟩ := endsByShutoff_iff_alarmed .generic ⟨100, 1000, 50, 10⟩
    [temperatures, pressures] true 1 pressures calls 60 rfl (by decide) (by decide)
    ⟨(SensorSpec.ofSensor .pt1).withLimits limits, by simp [pressures], by simp [SensorSpec.withLimits]⟩
    hother hset hpass
  have hstate : r.sequencer.state = .igniting := rfl
  exact ⟨hstate, rfl, by decide, hends rfl (.inl hstate) rfl (by decide)⟩

end Rig

end HotFire
