import HotFire.Proofs.Engine.Pulses
import HotFire.Proofs.Lines
import HotFire.Proofs.Rig.Calls

/-! The GITVC valve over whole runs. Left to its pulse plan, it is open only while a
burn holds the main valve open, and the end of a burn closes it. -/

namespace HotFire

/-- Of the commands only its own preset opens the valve. -/
theorem Command.handle_opens_gitvc {plan : Option GitvcPlan} {c : Command} {f : SafetyFlags}
    (hw : (Pin.gitvcValve, gitvcOn) ∈ (c.handle (.luna plan) f).writes) : c = .setGitvc := by
  rcases handle_writes_cases hw with ⟨-, hd⟩ | ⟨-, hs | hs⟩ | ⟨hp, -⟩ | ⟨_, label, -, hp⟩
  · exact absurd hd (by decide)
  · exact absurd (congrArg Prod.fst hs) (by decide)
  · exact absurd (congrArg Prod.fst hs) (by decide)
  · cases hp
  · cases c <;> simp [lunaPreset?, gitvcOn, Pin.gitvcValve, Pin.waterValve, Pin.valve2, Pin.valve3] at hp ⊢

namespace Rig

/-- `opening` is the step that opened the valves of the burn under way, and `since`
are the calls after it. -/
structure Opening (r : Rig) (before : List Call) (opening : Call) (since : List Call) : Prop where
  step : opening.deed = .step
  igniting : (r.after before).sequencer.state = .igniting
  opens : ((r.after before).report opening).state = some .mainValveOpen
  valves : ((r.after before).report opening).writes = r.profile.openLevels
  flows : ∀ p ∈ (r.after (before ++ [opening])).reports since, p.state ≠ some .ending

theorem Opening.concat {r : Rig} {before since : List Call} {opening c : Call}
    (h : r.Opening before opening since)
    (hc : ((r.after (before ++ opening :: since)).report c).state ≠ some .ending) :
    r.Opening before opening (since ++ [c]) := by
  refine ⟨h.step, h.igniting, h.opens, h.valves, ?_⟩
  intro p hp
  rw [reports_concat, ← after_cons_mid] at hp
  rcases List.mem_append.mp hp with hp | hp
  · exact h.flows p hp
  · rwa [List.mem_singleton.mp hp]

theorem opens_gitvc_of_not_step {plan : Option GitvcPlan} {r : Rig} (hr : r.profile = .luna plan)
    {c : Call} (hs : c.deed ≠ .step) (hc : c.deed ≠ .command .setGitvc) :
    (Pin.gitvcValve, gitvcOn) ∉ (r.report c).writes := by
  intro hm
  obtain ⟨cmd, hd, hcmd⟩ := mem_writes_of_not_step hs hm
  rw [hr] at hcmd
  exact hc (hd.trans (congrArg _ (Command.handle_opens_gitvc hcmd)))

section

variable {profile : EngineProfile} {timing : BurnTiming} {loops : List SamplingLoop}

/-- A train is that of the burn under way, and began with its main valve. -/
theorem train_opening {calls : List Call} {t : PulseTrain}
    (ht : ((fresh profile timing loops).after calls).sequencer.machine.context.train = some t) :
    ∃ before opening since plan, calls = before ++ opening :: since ∧
      (fresh profile timing loops).Opening before opening since ∧
      profile.gitvc? = some plan ∧ t.Plays plan opening.time := by
  induction calls using List.reverseRecOn generalizing t with
  | nil => cases ht
  | append_singleton calls c ih =>
    have hs := after_sound profile timing loops calls
    rw [after_concat] at ht
    rcases c.step_or with ⟨now, rfl⟩ | hc
    · obtain ⟨hopen, ⟨hi, hvalves, hstart⟩ | ⟨was, hwas, hpoll⟩⟩ := hs.tidy.train_step ht
      · rw [hs.burn_profile_eq] at hstart hvalves
        obtain ⟨plan, hplan, hstart⟩ := Option.bind_eq_some_iff.mp hstart
        exact ⟨calls, ⟨now, .step⟩, [], plan, rfl,
          ⟨rfl, hi, congrArg some hopen, hvalves, by simp⟩, hplan,
          (PulseTrain.start?_eq_some hstart).1⟩
      · obtain ⟨before, opening, since, plan, rfl, ho, hplan, hplays⟩ := ih hwas
        refine ⟨before, opening, since ++ [⟨now, .step⟩], plan, by simp, ho.concat ?_, hplan, ?_⟩
        · have hstate : _ = some BurnState.mainValveOpen := congrArg some hopen
          intro he
          cases hstate.symm.trans he
        · exact hpoll ▸ (hplays.poll now).1
    · rw [act_of_not_step hc] at ht
      obtain ⟨before, opening, since, plan, rfl, ho, hplan, hplays⟩ := ih ht
      refine ⟨before, opening, since ++ [c], plan, by simp, ho.concat ?_, hplan, hplays⟩
      simp [report_state_of_not_step hc]

theorem pulsesLeft_le_planned (calls : List Call) :
    ((fresh profile timing loops).after calls).sequencer.pulsesLeft ≤ profile.plannedPulses := by
  have hs := after_sound profile timing loops calls
  have htrain : ((fresh profile timing loops).after calls).sequencer.machine.context.train.elim 0
      (·.pulsesLeft) ≤ profile.plannedPulses := by
    cases ht : ((fresh profile timing loops).after calls).sequencer.machine.context.train with
    | none => exact Nat.zero_le _
    | some t =>
      obtain ⟨_, _, _, plan, -, -, hplan, hplays⟩ := train_opening ht
      simp only [Option.elim, EngineProfile.plannedPulses, hplan, PulseTrain.pulsesLeft,
        hplays.plan_eq]
      exact Nat.sub_le _ _
  rw [Sequencer.pulsesLeft, hs.burn_profile_eq]
  split
  · exact Nat.le_refl _
  · exact htrain

end

section

variable {plan : Option GitvcPlan} {timing : BurnTiming} {loops : List SamplingLoop}

/-- Until the next burn begins, the pulses made and those left are no more than those
that were left before. -/
theorem pulses_balance {before burn : List Call}
    (hcmd : ∀ c ∈ burn, c.deed ≠ .command .setGitvc)
    (hdark : (Pin.igniter, Level.high) ∉
      ((fresh (.luna plan) timing loops).after before).writes burn) :
    (((fresh (.luna plan) timing loops).after before).writes burn).count
        (Pin.gitvcValve, gitvcOn) +
      ((fresh (.luna plan) timing loops).after (before ++ burn)).sequencer.pulsesLeft ≤
        ((fresh (.luna plan) timing loops).after before).sequencer.pulsesLeft := by
  induction burn using List.reverseRecOn with
  | nil => simp [writes]
  | append_singleton burn c ih =>
    have hs := after_sound (.luna plan) timing loops (before ++ burn)
    rw [writes_concat, List.mem_append, not_or] at hdark
    rw [writes_concat, List.count_append, ← List.append_assoc, after_concat, ← after_append]
    rw [← after_append] at hdark
    have hold := ih (fun x hx => hcmd x (by simp [hx])) hdark.1
    rcases c.step_or with ⟨now, rfl⟩ | hc
    · have hplays : ∀ t, ((fresh (.luna plan) timing loops).after
          (before ++ burn)).sequencer.machine.context.train = some t →
          ∃ plan start, t.Plays plan start := by
        intro t ht
        obtain ⟨_, opening, _, plan, -, -, -, hplays⟩ := train_opening ht
        exact ⟨plan, opening.time, hplays⟩
      have hstep := hs.tidy.pulses_balance hplays hdark.2
      rw [Nat.add_assoc]
      exact Nat.le_trans (Nat.add_le_add_left hstep _) hold
    · have hshut := List.count_eq_zero.mpr
        (opens_gitvc_of_not_step hs.profile_eq hc (hcmd c (by simp)))
      rw [hshut, act_of_not_step hc]
      exact hold

theorem ending_closes_gitvc {r : Rig} (hs : Sound (.luna plan) timing r) {c : Call}
    (hend : (r.report c).state = some .ending) :
    lastLevel Pin.gitvcValve (r.report c).writes = some gitvcOff := by
  rcases c.step_or with ⟨now, rfl⟩ | hc
  · have hlast : lastLevel Pin.gitvcValve (EngineProfile.luna plan).endLevels = some gitvcOff := rfl
    have hwrites : (r.report ⟨now, .step⟩).writes = _ :=
      hs.tidy.ending_writes (Option.some.inj hend)
    rw [hwrites, hs.burn_profile_eq, lastLevel_append, hlast, Option.some_or]
  · rw [report_state_of_not_step hc] at hend
    cases hend

/-- The GITVC valve is open only during hotflow, when no command opens it. While it
is open, or a train is stored, a burn holds the main valve open. It is opened no
earlier after the main valve than the plan waits, and is closed again when the burn
ends, if not before. From one lighting of the igniter to the next it is opened no more
often than the plan has pulses. -/
theorem gitvc_opens_only_in_hotflow (plan : Option GitvcPlan) (timing : BurnTiming)
    (loops : List SamplingLoop) (past : List PinWrite) (calls : List Call)
    (hpast : lastLevel Pin.gitvcValve past ≠ some gitvcOn)
    (hcmd : ∀ c ∈ calls, c.deed ≠ .command .setGitvc) :
    let rig := fresh (.luna plan) timing loops
    let s := (rig.after calls).sequencer
    (lastLevel Pin.gitvcValve (past ++ rig.writes calls) = some gitvcOn →
        s.state = .mainValveOpen) ∧
      (s.machine.context.train ≠ none → s.state = .mainValveOpen) ∧
      (∀ before c since, calls = before ++ c :: since →
        (Pin.gitvcValve, gitvcOn) ∈ ((rig.after before).report c).writes →
        (∃ p older opening between, plan = some p ∧ before = older ++ opening :: between ∧
          rig.Opening older opening between ∧ opening.time + p.wait ≤ c.time) ∧
        ∀ between ending rest, since = between ++ ending :: rest →
          ((rig.after (before ++ c :: between)).report ending).state = some .ending →
          lastLevel Pin.gitvcValve ((rig.after (before ++ [c])).writes (between ++ [ending])) =
            some gitvcOff) ∧
      ∀ before burn rest, calls = before ++ burn ++ rest →
        (Pin.igniter, .high) ∉ (rig.after before).writes burn →
        ((rig.after before).writes burn).count (Pin.gitvcValve, gitvcOn) ≤
          plan.elim 0 (·.pulses.length) := by
  intro rig s
  refine ⟨?_, ?_, ?_, ?_⟩
  · have hclose : lastLevel Pin.gitvcValve (EngineProfile.luna plan).endLevels = some gitvcOff := rfl
    refine held_in_hotflow (by decide) (by decide) hclose hpast ?_
    intro r hr c hm hc
    exact opens_gitvc_of_not_step hr hc (hcmd c hm)
  · intro htrain
    refine Decidable.byContradiction fun hne => ?_
    exact htrain ((after_sound (.luna plan) timing loops calls).tidy.train hne)
  · rintro before c since rfl hopen
    have hs := after_sound (.luna plan) timing loops before
    refine ⟨?_, ?_⟩
    · rcases c.step_or with ⟨now, rfl⟩ | hc
      · obtain ⟨t, ht, hedge⟩ := hs.tidy.opens_gitvc hopen
        obtain ⟨older, opening, between, p, rfl, ho, hplan, hplays⟩ := train_opening ht
        exact ⟨p, older, opening, between, hplan, rfl, ho, (hplays.poll now).2.2 hedge⟩
      · exact absurd hopen (opens_gitvc_of_not_step hs.profile_eq hc (hcmd c (by simp)))
    · rintro between ending rest rfl hend
      have hclose := ending_closes_gitvc
        (after_sound (.luna plan) timing loops (before ++ c :: between)) hend
      rw [writes_concat, lastLevel_append, ← after_cons_mid, hclose, Option.some_or]
  · rintro before burn rest rfl hdark
    have hbalance := pulses_balance (fun c hc => hcmd c (by simp [hc])) hdark
    have hleft : ((fresh (.luna plan) timing loops).after before).sequencer.pulsesLeft ≤
        (EngineProfile.luna plan).plannedPulses := pulsesLeft_le_planned before
    exact Nat.le_trans (Nat.le_add_right _ _) (Nat.le_trans hbalance hleft)

/-- A train of two pulses, of which a stop cuts the second. -/
theorem gitvc_opens_only_in_hotflow_of_cut_pulse :
    let rig := fresh (.luna (some ⟨5, 5, [10, 30]⟩)) ⟨100, 1000, 2000, 10⟩ []
    let past : List PinWrite := [(Pin.gitvcValve, gitvcOff)]
    let before : List Call := [⟨0, .command .startIgnition⟩, ⟨0, .step⟩, ⟨100, .step⟩, ⟨106, .step⟩,
      ⟨117, .step⟩]
    let since : List Call := [⟨125, .command .stopIgnition⟩, ⟨126, .step⟩]
    let calls := before ++ ⟨121, .step⟩ :: since
    lastLevel Pin.gitvcValve past ≠ some gitvcOn ∧
      (∀ c ∈ calls, c.deed ≠ .command .setGitvc) ∧
      (Pin.gitvcValve, gitvcOn) ∈ ((rig.after before).report ⟨121, .step⟩).writes ∧
      (∃ older opening between, before = older ++ opening :: between ∧
        rig.Opening older opening between ∧ opening.time + 5 ≤ 121) ∧
      lastLevel Pin.gitvcValve ((rig.after (before ++ [⟨121, .step⟩])).writes since) =
        some gitvcOff ∧
      ((rig.after (before.take 2)).writes (calls.drop 2)).count (Pin.gitvcValve, gitvcOn) ≤ 2 := by
  intro rig past before since calls
  have hpast : lastLevel Pin.gitvcValve past ≠ some gitvcOn := by decide
  have hcmd : ∀ c ∈ calls, c.deed ≠ .command .setGitvc := by decide
  obtain ⟨-, -, hopens, hcount⟩ := gitvc_opens_only_in_hotflow (some ⟨5, 5, [10, 30]⟩)
    ⟨100, 1000, 2000, 10⟩ [] past calls hpast hcmd
  have hopen : (Pin.gitvcValve, gitvcOn) ∈ ((rig.after before).report ⟨121, .step⟩).writes := by
    decide
  obtain ⟨⟨p, older, opening, between, hp, hsplit, ho, hwait⟩, hclose⟩ :=
    hopens before ⟨121, .step⟩ since rfl hopen
  cases hp
  exact ⟨hpast, hcmd, hopen, ⟨older, opening, between, hsplit, ho, hwait⟩,
    hclose [⟨125, .command .stopIgnition⟩] ⟨126, .step⟩ [] rfl (by decide),
    hcount (before.take 2) (calls.drop 2) [] (by decide) (by decide)⟩

end

end Rig

end HotFire
