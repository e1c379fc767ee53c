import HotFire.Proofs.Rig.Calls

/-! The igniter while a burn waits for its main valve. The sequencer sees the flags
only when it polls, so a stop that a new start overtakes goes unseen: the igniter
is off and the valve opens all the same. No other stop is followed by an opening. -/

namespace HotFire

/-- The record has the igniter on for `span` or longer at time `now`. -/
def Hot (record : List TimedWrite) (span now : Nat) : Prop :=
  ∃ older e newer, record = older ++ e :: newer ∧ e.write = (Pin.igniter, .high) ∧
    e.time + span ≤ now ∧ ∀ e' ∈ newer, e'.write ≠ (Pin.igniter, .low)

/-- A start comes before the next poll. -/
def Overtaken (calls : List Call) : Prop :=
  ∃ u start v, calls = u ++ start :: v ∧ start.deed = .command .startIgnition ∧
    ∀ c ∈ u, c.deed ≠ .step

theorem Overtaken.append {calls : List Call} (h : Overtaken calls) (more : List Call) :
    Overtaken (calls ++ more) := by
  obtain ⟨u, start, v, rfl, hs, hu⟩ := h
  exact ⟨u, start, v ++ more, by simp, hs, hu⟩

theorem Sequencer.Tidy.ignites {s : Sequencer} (h : s.Tidy) {now : Nat} {f : SafetyFlags}
    (hn : (s.step now f).sequencer.state = .igniting) :
    s.state = .idle ∧ (s.step now f).writes = [(Pin.igniter, .high)] ∧
        (s.step now f).sequencer.machine.context.t0 = now ∨
      s.state = .igniting ∧ f.ignition = true ∧ (s.step now f).writes = [] ∧
        (s.step now f).sequencer.machine.context.t0 = s.machine.context.t0 := by
  have hm := h.move now f
  generalize s.step now f = r at hm hn ⊢
  cases hm with
  | ignite hs hf => exact .inl ⟨hs, by simp, rfl⟩
  | burn hs hr ht =>
    exact .inr ⟨hs, ((BurnContext.abortReason_eq_none_iff _).mp hr).1, by simp, rfl⟩
  | _ => cases hn

theorem Sequencer.Tidy.opens {s : Sequencer} (h : s.Tidy) {now : Nat} {f : SafetyFlags}
    (hw : (Pin.mainValve, .high) ∈ (s.step now f).writes) :
    s.state = .igniting ∧ f.ignition = true ∧
      s.machine.context.timing.preignite ≤ now - s.machine.context.t0 ∧
      (s.step now f).writes = [(Pin.mainValve, .high)] := by
  have hm := h.move now f
  generalize s.step now f = r at hm hw ⊢
  cases hm with
  | openValves hs hr ht =>
    refine ⟨hs, ((BurnContext.abortReason_eq_none_iff _).mp hr).1, ht, ?_⟩
    simp only [writing_writes] at hw ⊢
    cases hp : s.machine.context.profile with
    | generic | luna plan => rfl
    | titan => simp [hp, EngineProfile.openLevels, Pin.mainValve, Pin.ventValve, Pin.tankValve,
        Pin.valve1, Pin.valve2, Pin.valve3] at hw
  | flow hs hr ht =>
    rw [writing_writes] at hw
    exact absurd hw ((s.inputs now f).high_not_mem_pulse (by decide))
  | finish r hs hr =>
    rw [finishing_writes] at hw
    exact absurd hw ((s.inputs now f).high_not_mem_finish (by decide))
  | ignite hs hf => simp [Pin.mainValve, Pin.igniter, Pin.valve1] at hw
  | _ => simp at hw

namespace Rig

/-- A burn in `igniting`: `ignite` is the step that lit the igniter and `since`
are the calls after it. A stop among them is overtaken, or it has not been polled
yet. -/
structure Lighting (r : Rig) (before : List Call) (ignite : Call) (since : List Call) :
    Prop where
  step : ignite.deed = .step
  lights : ((r.after before).report ignite).writes = [(Pin.igniter, .high)]
  t0 : (r.after (before ++ ignite :: since)).sequencer.machine.context.t0 = ignite.time
  dark : ∀ e ∈ (r.after (before ++ [ignite])).history since, e.write ≠ (Pin.igniter, .high)
  low_iff : (∃ e ∈ (r.after (before ++ [ignite])).history since, e.write = (Pin.igniter, .low)) ↔
    ∃ c ∈ since, c.deed = .command .stopIgnition
  stops : ∀ a s b, since = a ++ s :: b → s.deed = .command .stopIgnition →
    Overtaken b ∨ (∀ c ∈ b, c.deed ≠ .step) ∧
      (r.after (before ++ ignite :: since)).flags.ignition = false

theorem igniter_marks {r : Rig} {c : Call} (hc : c.deed ≠ .step) :
    (∀ e ∈ r.marks c, e.write ≠ (Pin.igniter, .high)) ∧
      ((∃ e ∈ r.marks c, e.write = (Pin.igniter, .low)) ↔ c.deed = .command .stopIgnition) := by
  refine ⟨?_, ?_, ?_⟩
  · intro e he hw
    exact igniter_dark_of_not_step hc (hw ▸ write_mem_of_marks he)
  · rintro ⟨e, he, hw⟩
    obtain ⟨cmd, hd, hm⟩ := mem_writes_of_not_step hc (write_mem_of_marks he)
    rw [hd, (Command.handle_writes_igniter hm (by rw [hw])).1]
  · intro hd
    refine ⟨⟨c.time, (Pin.igniter, .low)⟩, List.mem_map.mpr ⟨_, ?_, rfl⟩, rfl⟩
    simp [report, Call.action, hd, act, command, Command.handle_stop_writes]

theorem Lighting.concat {r : Rig} {before since : List Call} {ignite c : Call}
    (h : r.Lighting before ignite since)
    (hdark : ∀ e ∈ (r.after (before ++ ignite :: since)).marks c, e.write ≠ (Pin.igniter, .high))
    (hlow : (∃ e ∈ (r.after (before ++ ignite :: since)).marks c, e.write = (Pin.igniter, .low)) ↔
      c.deed = .command .stopIgnition)
    (ht : ((r.after (before ++ ignite :: since)).act c.action).1.sequencer.machine.context.t0 =
      ignite.time)
    (hstop : ((r.after (before ++ ignite :: since)).flags.ignition = false ∨
        c.deed = .command .stopIgnition) →
      c.deed = .command .startIgnition ∨ c.deed ≠ .step ∧
        ((r.after (before ++ ignite :: since)).act c.action).1.flags.ignition = false) :
    r.Lighting before ignite (since ++ [c]) := by
  have hafter : r.after (before ++ ignite :: (since ++ [c])) =
      ((r.after (before ++ ignite :: since)).act c.action).1 := by
    rw [← after_concat, List.append_assoc, List.cons_append]
  refine ⟨h.step, h.lights, hafter ▸ ht, ?_, ?_, ?_⟩
  · intro e he
    rw [history_concat, ← after_cons_mid] at he
    exact (List.mem_append.mp he).elim (h.dark e) (hdark e)
  · rw [history_concat, ← after_cons_mid]
    simp only [List.mem_append, List.mem_singleton, or_and_right, exists_or, h.low_iff, hlow,
      exists_eq_left]
  · intro a s b hsplit hs
    rw [hafter]
    rcases concat_eq_append_cons hsplit with ⟨b', rfl, hb⟩ | ⟨rfl, rfl, -⟩
    · rcases h.stops a s b' hb hs with ho | ⟨hb', hf⟩
      · exact .inl (ho.append [c])
      · rcases hstop (.inl hf) with hstart | ⟨hc, hf'⟩
        · exact .inl ⟨b', c, [], by simp, hstart, hb'⟩
        · refine .inr ⟨?_, hf'⟩
          intro x hx
          rcases List.mem_append.mp hx with hx | hx
          · exact hb' x hx
          · rwa [List.mem_singleton.mp hx]
    · rcases hstop (.inr hs) with hstart | ⟨-, hf'⟩
      · rw [hs] at hstart
        cases hstart
      · exact .inr ⟨by simp, hf'⟩

section

variable {profile : EngineProfile} {timing : BurnTiming} {loops : List SamplingLoop}

theorem igniting_lighting {calls : List Call}
    (h : ((fresh profile timing loops).after calls).sequencer.state = .igniting) :
    ∃ before ignite since, calls = before ++ ignite :: since ∧
      (fresh profile timing loops).Lighting before ignite since := by
  induction calls using List.reverseRecOn with
  | nil => change BurnState.idle = .igniting at h; cases h
  | append_singleton calls c ih =>
    have ht := (after_sound profile timing loops calls).tidy
    rw [after_concat] at h
    rcases c.step_or with ⟨now, rfl⟩ | hc
    · rcases ht.ignites h with ⟨-, hw, h0⟩ | ⟨hi, hf, hw, h0⟩
      · refine ⟨calls, ⟨now, .step⟩, [], rfl, rfl, hw, ?_, by simp, by simp, by simp⟩
        rw [after_concat]
        exact h0
      · obtain ⟨before, ignite, since, rfl, hl⟩ := ih hi
        have hm : ((fresh profile timing loops).after (before ++ ignite :: since)).marks
            ⟨now, .step⟩ = [] := by
          rw [marks, List.map_eq_nil_iff]
          exact hw
        refine ⟨before, ignite, since ++ [⟨now, .step⟩], by simp,
          hl.concat (c := ⟨now, .step⟩) (by simp [hm]) (by simp [hm]) (h0.trans hl.t0) ?_⟩
        rintro (hd | hd)
        · rw [hd] at hf; cases hf
        · cases hd
    · rw [act_of_not_step hc] at h
      obtain ⟨before, ignite, since, rfl, hl⟩ := ih h
      obtain ⟨hdark, hlow⟩ := igniter_marks
        (r := (fresh profile timing loops).after (before ++ ignite :: since)) hc
      refine ⟨before, ignite, since ++ [c], by simp,
        hl.concat hdark hlow (by rw [act_of_not_step hc]; exact hl.t0) ?_⟩
      intro hd
      by_cases hstart : c.deed = .command .startIgnition
      · exact .inl hstart
      · refine .inr ⟨hc, ?_⟩
        rcases hd with hd | hd
        · exact ignition_stays_down hd hc hstart
        · simp [Call.action, hd, act, command, Command.handle_flags]

end

theorem Lighting.hot_iff {r : Rig} {before since : List Call} {ignite : Call}
    (h : r.Lighting before ignite since) {span now : Nat} (ht : ignite.time + span ≤ now) :
    Hot (r.history (before ++ ignite :: since)) span now ↔
      ∀ c ∈ since, c.deed ≠ .command .stopIgnition := by
  have hm : (r.after before).marks ignite = [⟨ignite.time, (Pin.igniter, .high)⟩] := by
    rw [marks, h.lights]
    rfl
  rw [history_cons_mid, hm]
  constructor
  · rintro ⟨older, e, newer, hsplit, he, -, hnewer⟩ c hc hd
    obtain ⟨low, hlow, hw⟩ := h.low_iff.mpr ⟨c, hc, hd⟩
    -- the write that `Hot` names is no later than the one of `ignite`
    have hin : low ∈ newer := by
      rcases List.append_eq_append_iff.mp hsplit with ⟨x, -, hx⟩ | ⟨x, hx, hy⟩
      · exact absurd he (h.dark e (by simp [hx]))
      · cases x with
        | nil => exact absurd he (h.dark e (by simp at hy; simp [← hy]))
        | cons y x =>
          obtain ⟨rfl, rfl⟩ := List.cons.inj hy
          simp [hlow]
    exact hnewer low hin hw
  · intro hno
    refine ⟨r.history before, _, _, List.append_assoc _ _ _, rfl, ht, ?_⟩
    intro e he hw
    obtain ⟨c, hc, hd⟩ := h.low_iff.mp ⟨e, he, hw⟩
    exact hno c hc hd

/-- Where a step opens the main valve, the igniter was lit by an earlier step of
the burn, `preignite` ago or longer, and it is still on exactly if no stop was
handled since. Each stop that was handled had a start between it and the next
poll. -/
theorem opens_hot_iff_no_stop (profile : EngineProfile) (timing : BurnTiming)
    (loops : List SamplingLoop) (calls : List Call) (now : Nat) (ws ws' : List PinWrite)
    (hclock : Chronological (calls ++ [⟨now, .step⟩]))
    (hopen : (((fresh profile timing loops).after calls).report ⟨now, .step⟩).writes =
      ws ++ (Pin.mainValve, .high) :: ws') :
    ∃ before ignite since, calls = before ++ ignite :: since ∧ ignite.deed = .step ∧
      (((fresh profile timing loops).after before).report ignite).writes =
        [(Pin.igniter, .high)] ∧
      (∀ e ∈ ((fresh profile timing loops).after (before ++ [ignite])).history since,
        e.write ≠ (Pin.igniter, .high)) ∧
      ignite.time + timing.preignite ≤ now ∧
      (Hot ((fresh profile timing loops).history calls ++ ws.map (⟨now, ·⟩))
          timing.preignite now ↔ ∀ c ∈ since, c.deed ≠ .command .stopIgnition) ∧
      ∀ a s b, since = a ++ s :: b → s.deed = .command .stopIgnition → Overtaken b := by
  have hs := after_sound profile timing loops calls
  have hm : (Pin.mainValve, Level.high) ∈ ws ++ (Pin.mainValve, .high) :: ws' := by simp
  rw [← hopen] at hm
  obtain ⟨hi, hf, ht, hw⟩ := hs.tidy.opens hm
  -- the valve's write is the step's only one
  obtain rfl : ws = [] := by
    have he := hopen.symm.trans hw
    cases ws with
    | nil => rfl
    | cons w ws => simp at he
  obtain ⟨before, ignite, since, rfl, hl⟩ := igniting_lighting hi
  have hle : ignite.time ≤ now :=
    (List.pairwise_append.mp hclock).2.2 ignite (by simp) ⟨now, .step⟩ (by simp)
  simp only [hs.timing_eq, hl.t0] at ht
  have hpre : ignite.time + timing.preignite ≤ now := by omega
  refine ⟨before, ignite, since, rfl, hl.step, hl.lights, hl.dark, hpre, ?_, ?_⟩
  · simpa using hl.hot_iff hpre
  · intro a s b hsplit hd
    rcases hl.stops a s b hsplit hd with ho | ⟨-, hoff⟩
    · exact ho
    · rw [hoff] at hf
      cases hf

/-- A burn that is left alone opens its valve on a lit igniter. -/
theorem opens_hot_iff_no_stop_of_start :
    let r := fresh .generic ⟨100, 1000, 2000, 10⟩ []
    let calls : List Call := [⟨0, .command .startIgnition⟩, ⟨5, .step⟩]
    Chronological (calls ++ [⟨105, .step⟩]) ∧
      ((r.after calls).report ⟨105, .step⟩).writes = [] ++ [(Pin.mainValve, .high)] ∧
      ∃ before ignite since, calls = before ++ ignite :: since ∧ ignite.deed = .step ∧
        ((r.after before).report ignite).writes = [(Pin.igniter, .high)] ∧
        (∀ e ∈ (r.after (before ++ [ignite])).history since, e.write ≠ (Pin.igniter, .high)) ∧
        ignite.time + 100 ≤ 105 ∧
        (Hot (r.history calls ++ [].map (⟨105, ·⟩)) 100 105 ↔
          ∀ c ∈ since, c.deed ≠ .command .stopIgnition) ∧
        ∀ a s b, since = a ++ s :: b → s.deed = .command .stopIgnition → Overtaken b :=
  ⟨by decide, rfl, opens_hot_iff_no_stop .generic ⟨100, 1000, 2000, 10⟩ [] _ 105 [] []
    (by decide) rfl⟩

/-- A stop and a start between two polls: the igniter is off and stays off, and the
main valve opens. -/
theorem opens_cold_of_overtaken_stop :
    let r := fresh .generic ⟨100, 1000, 2000, 10⟩ []
    let calls : List Call := [⟨0, .command .startIgnition⟩, ⟨5, .step⟩,
      ⟨50, .command .stopIgnition⟩, ⟨60, .command .startIgnition⟩]
    Chronological (calls ++ [⟨105, .step⟩]) ∧
      ((r.after calls).report ⟨105, .step⟩).writes = [(Pin.mainValve, .high)] ∧
      ¬ Hot (r.history calls) 100 105 := by
  refine ⟨by decide, rfl, ?_⟩
  rintro ⟨older, e, newer, hsplit, he, -, hnewer⟩
  change [⟨5, (Pin.igniter, .high)⟩, ⟨50, (Pin.igniter, .low)⟩, ⟨50, (Pin.mainValve, .low)⟩] =
    older ++ e :: newer at hsplit
  rcases older with _ | ⟨_, _ | ⟨_, _ | ⟨_, older⟩⟩⟩
  · obtain ⟨rfl, rfl⟩ := List.cons.inj hsplit
    exact hnewer ⟨50, (Pin.igniter, .low)⟩ (by simp) rfl
  · simp at hsplit
    rw [← hsplit.2.1] at he
    cases he
  · simp at hsplit
    rw [← hsplit.2.2.1] at he
    cases he
  · simp at hsplit

end Rig

end HotFire
