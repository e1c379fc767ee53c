import HotFire.Proofs.Engine.Step

/-! The pulse train of a burn. It opens its valve no earlier than its plan waits, and
no more often than its plan has pulses. -/

namespace HotFire

theorem PulseTrain.poll_cases (t : PulseTrain) (now : Nat) :
    t.poll now = (t, none) ∨
      (∃ i, t.deadline ≤ now ∧ t.opens? = some i ∧
        t.poll now = (t.openPulse i, some (Pin.gitvcValve, gitvcOn))) ∨
      ∃ i, t.deadline ≤ now ∧ t.phase = .on i ∧
        t.poll now = (t.closePulse i, some (Pin.gitvcValve, gitvcOff)) := by
  by_cases hearly : now < t.deadline
  · exact .inl (if_pos hearly)
  · have hdue : t.deadline ≤ now := Nat.le_of_not_lt hearly
    cases hp : t.phase with
    | done => exact .inl (by simp [poll, hp])
    | waiting => exact .inr (.inl ⟨0, hdue, by simp [opens?, hp], by simp [poll, hp, hearly]⟩)
    | off next =>
      exact .inr (.inl ⟨next, hdue, by simp [opens?, hp], by simp [poll, hp, hearly]⟩)
    | on i => exact .inr (.inr ⟨i, hdue, rfl, by simp [poll, hp, hearly]⟩)

namespace PulseTrain

/-- A train for `plan` that began at `start`. -/
structure Plays (plan : GitvcPlan) (start : Nat) (t : PulseTrain) : Prop where
  plan_eq : t.plan = plan
  due : start + plan.wait ≤ t.deadline
  opening : ∀ i, t.opens? = some i → i < plan.pulses.length
  opened : ∀ i, t.phase = .on i → i < plan.pulses.length

def pulsesLeft (t : PulseTrain) : Nat := t.plan.pulses.length - t.pulsesStarted

variable {plan : GitvcPlan} {start : Nat} {t : PulseTrain}

theorem start?_eq_some {now : Nat} (h : start? plan now = some t) :
    t.Plays plan now ∧ t.pulsesLeft = plan.pulses.length := by
  by_cases he : plan.pulses = []
  · simp [start?, he] at h
  · have hpos : 0 < plan.pulses.length := List.length_pos_iff.mpr he
    obtain rfl : (⟨plan, .waiting, now + plan.wait⟩ : PulseTrain) = t := by
      simpa [start?, he] using h
    refine ⟨⟨rfl, Nat.le_refl _, ?_, ?_⟩, rfl⟩
    · intro i hi
      cases hi
      exact hpos
    · intro i hi
      cases hi

theorem pulsesStarted_of_opens {i : Nat} (h : t.opens? = some i) : t.pulsesStarted = i := by
  cases hp : t.phase <;> simp_all [opens?, pulsesStarted]

theorem Plays.openPulse {i : Nat} (h : t.Plays plan start) (hi : t.opens? = some i) :
    (t.openPulse i).Plays plan start ∧ (t.openPulse i).pulsesLeft + 1 = t.pulsesLeft := by
  obtain ⟨rfl, hdue, hopening, -⟩ := h
  have hlt := hopening i hi
  refine ⟨⟨rfl, Nat.le_trans hdue (Nat.le_add_right _ _), ?_, ?_⟩, ?_⟩
  · intro j hj
    cases hj
  · intro j hj
    cases hj
    exact hlt
  · have hstarted : (t.openPulse i).pulsesStarted = i + 1 := rfl
    have hplan : (t.openPulse i).plan = t.plan := rfl
    rw [pulsesLeft, pulsesLeft, hstarted, hplan, pulsesStarted_of_opens hi]
    omega

theorem Plays.closePulse {i : Nat} (h : t.Plays plan start) (hi : t.phase = .on i) :
    (t.closePulse i).Plays plan start ∧ (t.closePulse i).pulsesLeft = t.pulsesLeft := by
  obtain ⟨rfl, hdue, -, hopened⟩ := h
  have hlt := hopened i hi
  have hstarted : t.pulsesStarted = i + 1 := by simp [pulsesStarted, hi]
  by_cases hmore : i + 1 < t.plan.pulses.length
  · have hclose : t.closePulse i =
        { t with phase := .off (i + 1), deadline := t.deadline + t.plan.between } := if_pos hmore
    rw [hclose, pulsesLeft, pulsesLeft, hstarted]
    refine ⟨⟨rfl, Nat.le_trans hdue (Nat.le_add_right _ _), ?_, ?_⟩, rfl⟩
    · intro j hj
      cases hj
      exact hmore
    · intro j hj
      cases hj
  · have hclose : t.closePulse i = { t with phase := .done } := if_neg hmore
    rw [hclose, pulsesLeft, pulsesLeft, hstarted]
    refine ⟨⟨rfl, hdue, ?_, ?_⟩, ?_⟩
    · intro j hj
      cases hj
    · intro j hj
      cases hj
    · -- the pulse that closes is the plan's last
      show t.plan.pulses.length - t.plan.pulses.length = t.plan.pulses.length - (i + 1)
      omega

/-- A look at the clock keeps to the plan: each opening is paid for with a pulse
that was left. -/
theorem Plays.poll (h : t.Plays plan start) (now : Nat) :
    (t.poll now).1.Plays plan start ∧
      (t.poll now).2.toList.count (Pin.gitvcValve, gitvcOn) + (t.poll now).1.pulsesLeft =
        t.pulsesLeft ∧
      ((t.poll now).2 = some (Pin.gitvcValve, gitvcOn) → start + plan.wait ≤ now) := by
  obtain hp | ⟨i, hdue, hi, hp⟩ | ⟨i, hdue, hi, hp⟩ := t.poll_cases now
  · rw [hp]
    exact ⟨h, Nat.zero_add _, by simp⟩
  · obtain ⟨hplays, hleft⟩ := h.openPulse hi
    rw [hp]
    refine ⟨hplays, ?_, fun _ => Nat.le_trans h.due hdue⟩
    rw [← hleft, Nat.add_comm]
    rfl
  · obtain ⟨hplays, hleft⟩ := h.closePulse hi
    rw [hp]
    refine ⟨hplays, ?_, by simp [gitvcOn, gitvcOff]⟩
    rw [hleft]
    exact Nat.zero_add _

end PulseTrain

namespace EngineProfile

def plannedPulses (p : EngineProfile) : Nat := p.gitvc?.elim 0 (·.pulses.length)

theorem gitvcOn_not_mem_openLevels (p : EngineProfile) :
    (Pin.gitvcValve, gitvcOn) ∉ p.openLevels := by
  cases p with
  | titan => decide
  | generic | luna plan => simp [openLevels, gitvcOn]

theorem gitvcOn_not_mem_endLevels (p : EngineProfile) :
    (Pin.gitvcValve, gitvcOn) ∉ p.endLevels := by
  cases p with
  | titan | generic => decide
  | luna plan => simp [endLevels, gitvcOn, Pin.gitvcValve, Pin.mainValve, Pin.igniter,
      Pin.waterValve, Pin.valve1, Pin.valve2, Pin.valve3]

end EngineProfile

namespace BurnContext

theorem gitvcOn_not_mem_finish (c : BurnContext) :
    (Pin.gitvcValve, gitvcOn) ∉ c.closing ++ c.profile.endLevels := by
  intro hm
  rcases List.mem_append.mp hm with hm | hm
  · cases closing_edge hm
  · exact c.profile.gitvcOn_not_mem_endLevels hm

theorem pulse_of_train {c : BurnContext} {t : PulseTrain} (h : c.train = some t) :
    c.pulse = (some (t.poll c.now).1, (t.poll c.now).2) := by
  simp [pulse, h]

end BurnContext

namespace Sequencer

/-- A train is started by the step that opens the valves and then only polled. -/
theorem Tidy.train_step {s : Sequencer} (h : s.Tidy) {now : Nat} {f : SafetyFlags}
    {t : PulseTrain} (ht : (s.step now f).sequencer.machine.context.train = some t) :
    (s.step now f).sequencer.state = .mainValveOpen ∧
      (s.state = .igniting ∧ (s.step now f).writes = s.machine.context.profile.openLevels ∧
          s.machine.context.profile.gitvc?.bind (PulseTrain.start? · now) = some t ∨
        ∃ was, s.machine.context.train = some was ∧ (was.poll now).1 = t) := by
  have hopen : (s.step now f).sequencer.state = .mainValveOpen := by
    refine Decidable.byContradiction fun hne => ?_
    rw [(h.step now f).train hne] at ht
    cases ht
  refine ⟨hopen, ?_⟩
  have hm := h.move now f
  generalize s.step now f = r at hm ht hopen ⊢
  cases hm with
  | openValves hs hr hpre => exact .inl ⟨hs, writing_writes _ _ _, ht⟩
  | flow hs hr hhot =>
    cases hwas : s.machine.context.train with
    | none =>
      rw [writing_sequencer, moved_context, BurnContext.pulse, inputs_train, hwas] at ht
      cases ht
    | some was =>
      rw [writing_sequencer, moved_context, BurnContext.pulse_of_train (s.inputs_train now f ▸ hwas)] at ht
      exact .inr ⟨was, rfl, Option.some.inj ht⟩
  | _ => cases hopen

theorem Tidy.opens_gitvc {s : Sequencer} (h : s.Tidy) {now : Nat} {f : SafetyFlags}
    (hw : (Pin.gitvcValve, gitvcOn) ∈ (s.step now f).writes) :
    ∃ t, s.machine.context.train = some t ∧ (t.poll now).2 = some (Pin.gitvcValve, gitvcOn) := by
  have hm := h.move now f
  generalize s.step now f = r at hm hw
  cases hm with
  | flow hs hr hhot =>
    rw [writing_writes] at hw
    cases ht : s.machine.context.train with
    | none =>
      rw [BurnContext.pulse, inputs_train, ht] at hw
      cases hw
    | some t =>
      rw [BurnContext.pulse_of_train (s.inputs_train now f ▸ ht)] at hw
      exact ⟨t, rfl, Option.mem_toList.mp hw⟩
  | openValves hs hr hpre =>
    rw [writing_writes] at hw
    exact absurd hw (EngineProfile.gitvcOn_not_mem_openLevels _)
  | finish r hs hr =>
    rw [finishing_writes] at hw
    exact absurd hw (s.inputs now f).gitvcOn_not_mem_finish
  | ignite hs hf =>
    rw [writing_writes, List.mem_singleton] at hw
    cases hw
  | wait hs hf | burn hs hr ht | settle hs =>
    rw [writing_writes] at hw
    cases hw

/-- How many pulses the burn under way can still make. -/
def pulsesLeft (s : Sequencer) : Nat :=
  match s.state with
  | .igniting => s.machine.context.profile.plannedPulses
  | _ => s.machine.context.train.elim 0 (·.pulsesLeft)

theorem Tidy.pulses_balance {s : Sequencer} (h : s.Tidy)
    (hplays : ∀ t, s.machine.context.train = some t → ∃ plan start, t.Plays plan start)
    {now : Nat} {f : SafetyFlags} (hdark : (Pin.igniter, Level.high) ∉ (s.step now f).writes) :
    (s.step now f).writes.count (Pin.gitvcValve, gitvcOn) +
      (s.step now f).sequencer.pulsesLeft ≤ s.pulsesLeft := by
  have hm := h.move now f
  generalize s.step now f = r at hm hdark ⊢
  cases hm with
  | ignite hs hf => simp at hdark
  | wait hs hf | settle hs | burn hs hr ht => simp [pulsesLeft, hs]
  | openValves hs hr ht =>
    have hcount := List.count_eq_zero.mpr
      (EngineProfile.gitvcOn_not_mem_openLevels s.machine.context.profile)
    have hstart : (s.inputs now f).opening?.elim 0 (·.pulsesLeft) ≤
        s.machine.context.profile.plannedPulses := by
      cases hplan : s.machine.context.profile.gitvc? with
      | none => simp [BurnContext.opening?, hplan]
      | some plan =>
        cases ht : PulseTrain.start? plan now with
        | none => simp [BurnContext.opening?, hplan, ht]
        | some t =>
          simp [BurnContext.opening?, EngineProfile.plannedPulses, hplan, ht,
            (PulseTrain.start?_eq_some ht).2]
    rw [writing_writes, hcount, Nat.zero_add]
    simpa [pulsesLeft, hs] using hstart
  | flow hs hr ht =>
    rw [writing_writes]
    cases hwas : s.machine.context.train with
    | none => simp [pulsesLeft, hs, hwas, BurnContext.pulse]
    | some t =>
      obtain ⟨plan, start, hp⟩ := hplays t hwas
      have hpoll := (hp.poll now).2.1
      rw [BurnContext.pulse_of_train (s.inputs_train now f ▸ hwas)]
      simp only [pulsesLeft, hs, hwas, writing_sequencer, moved_state, moved_context, inputs_now,
        Option.elim]
      exact Nat.le_of_eq hpoll
  | finish r hs hr =>
    have hcount := List.count_eq_zero.mpr (s.inputs now f).gitvcOn_not_mem_finish
    rw [finishing_writes]
    simp only [inputs_profile] at hcount
    simp [hcount, pulsesLeft]

end Sequencer

end HotFire
