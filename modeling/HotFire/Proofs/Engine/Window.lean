import HotFire.Proofs.Config.Validation
import HotFire.Proofs.Engine.Schedule

/-! The window of a burn, from preignite until hotflow. A burn opens its valves at
the first poll past preignite, so they open inside the window exactly if some poll
falls in it. -/

namespace HotFire

/-- Only a step that opens the valves sets them all to the levels of a burn. -/
theorem Sequencer.Tidy.opens_valves {s : Sequencer} (h : s.Tidy) {now : Nat} {f : SafetyFlags}
    (hopen : ∀ w ∈ s.machine.context.profile.openLevels, w ∈ (s.step now f).writes) :
    s.state = .igniting ∧ (s.inputs now f).abortReason = none ∧
      s.machine.context.timing.preignite ≤ now - s.machine.context.t0 ∧
      (s.step now f).sequencer.state = .mainValveOpen := by
  obtain ⟨level, hlevel, hend⟩ : ∃ level,
      (Pin.mainValve, level) ∈ s.machine.context.profile.openLevels ∧
        (Pin.mainValve, level) ∉ s.machine.context.profile.endLevels := by
    cases s.machine.context.profile with
    | titan => exact ⟨.low, by decide⟩
    | generic | luna plan => exact ⟨.high, by simp [EngineProfile.openLevels,
        EngineProfile.endLevels, Pin.mainValve, Pin.gitvcValve, Pin.valve1, Pin.valve3]⟩
  have hvalve := hopen _ hlevel
  have hline : Pin.mainValve ≠ Pin.gitvcValve := by decide
  have hm := h.move now f
  generalize s.step now f = r at hm hvalve ⊢
  cases hm with
  | openValves hs hr ht => exact ⟨hs, hr, ht, rfl⟩
  | flow hs hr ht =>
    rw [writing_writes] at hvalve
    exact absurd (BurnContext.pulse_edge hvalve) hline
  | finish r hs hr =>
    rw [finishing_writes, List.mem_append] at hvalve
    rcases hvalve with hclose | hclose
    · exact absurd (congrArg Prod.fst (BurnContext.closing_edge hclose)) hline
    · exact absurd hclose hend
  | ignite hs hf =>
    rw [writing_writes, List.mem_singleton] at hvalve
    cases hvalve
  | wait hs hf | burn hs hr ht | settle hs =>
    rw [writing_writes] at hvalve
    cases hvalve

namespace Timeline

variable {l : Timeline} {i k o n : Nat}

theorem exists_burning (hlit : (l.before n).state = .igniting ∨ (l.before n).state = .mainValveOpen) :
    ∃ i, (l.before i).state = .idle ∧ (l.step i).sequencer.state = .igniting ∧
      l.Burning i n (l.before n) := by
  induction n with
  | zero => rcases hlit with h | h <;> cases h
  | succ n ih =>
    rw [before_succ] at hlit
    by_cases hidle : (l.before n).state = .idle
    · have hignites : (l.step n).sequencer.state = .igniting := by
        have hm := l.step_move n
        generalize l.step n = r at hm hlit ⊢
        cases hm <;> simp_all
      exact ⟨n, hidle, hignites, (burning_of_ignite hidle hignites).1⟩
    · have hwas : (l.before n).state = .igniting ∨ (l.before n).state = .mainValveOpen := by
        have hm := l.step_move n
        generalize l.step n = r at hm hlit
        cases hm <;> simp_all
      obtain ⟨i, hi, hignites, hb⟩ := ih hwas
      refine ⟨i, hi, hignites, (hb.next ?_).1⟩
      intro hcut
      rw [(hb.finish hcut).state] at hlit
      rcases hlit with h | h <;> cases h

theorem Burning.opens (hb : l.Burning i o (l.before o))
    (hstate : (l.before o).state = .igniting) (hage : l.timing.preignite ≤ l.age i o) :
    l.Opens i o := by
  obtain ⟨-, hyoung⟩ | ⟨hs, -⟩ := hb.phase
  · exact ⟨hb.lit, hage, hyoung⟩
  · rw [hstate] at hs
    cases hs

/-- The polls of a run reach the window of the burn that step `i` lit. -/
def Visits (l : Timeline) (i : Nat) : Prop :=
  ∃ k, i < k ∧ l.timing.preignite ≤ l.age i k ∧ l.age i k < l.timing.hotflow

theorem Opens.in_window_iff (h : l.Opens i o) : l.age i o < l.timing.hotflow ↔ l.Visits i := by
  constructor
  · intro hyoung
    exact ⟨o, h.1, h.2.1, hyoung⟩
  · rintro ⟨k, hik, hpre, hhot⟩
    have hle : l.age i o ≤ l.age i k := l.age_le i (h.lt_of_age hik hpre)
    omega

/-- A poll that follows the one before it quickly enough cannot miss the window. -/
theorem Opens.in_window_of_close (h : l.Opens i o)
    (hclose : (l.polls o).now + l.timing.preignite < (l.polls (o - 1)).now + l.timing.hotflow) :
    l.age i o < l.timing.hotflow := by
  have hio := h.1
  have hfirst : (l.polls i).now ≤ (l.polls (o - 1)).now := l.clock i (o - 1) (by omega)
  have hmono : (l.polls (o - 1)).now ≤ (l.polls o).now := l.clock (o - 1) o (Nat.sub_le o 1)
  have hlast : l.age i (o - 1) ≤ l.timing.preignite := by
    by_cases hi : o - 1 = i
    · simp [age, hi]
    · exact Nat.le_of_lt (h.2.2 (o - 1) (by omega) (by omega))
  simp only [age] at hlast ⊢
  omega

/-- In a valid configuration the window is not empty, and a burn opens its valves at
its first poll past preignite. That is inside the window if and only if some poll
falls in it, which polls closer together than the window is long always do. A burn
that opens too late keeps its valves open until the next poll, which ends it. -/
theorem opens_in_window_iff {c : StandConfig} (hvalid : c.validate = .ok ()) (l : Timeline)
    (htiming : l.timing = c.timing) (o : Nat)
    (hopen : ∀ w ∈ l.profile.openLevels, w ∈ (l.step o).writes) :
    l.timing.preignite < l.timing.hotflow ∧
      ∃ i, (l.before i).state = .idle ∧ (l.step i).sequencer.state = .igniting ∧
        (l.before o).machine.context.t0 = (l.polls i).now ∧ l.Opens i o ∧
        (l.age i o < l.timing.hotflow ↔ l.Visits i) ∧
        ((l.polls o).now + l.timing.preignite < (l.polls (o - 1)).now + l.timing.hotflow →
          l.age i o < l.timing.hotflow) ∧
        (l.timing.hotflow ≤ l.age i o →
          (l.step o).sequencer.state = .mainValveOpen ∧ l.Finishes i (o + 1) (l.step (o + 1))) := by
  refine ⟨htiming ▸ StandConfig.preignite_lt_hotflow hvalid, ?_⟩
  rw [← l.before_profile o] at hopen
  obtain ⟨hstate, hnone, hpre, hnext⟩ := (l.before_tidy o).opens_valves hopen
  obtain ⟨i, hidle, hlit, hb⟩ := exists_burning (.inl hstate)
  have hage : l.timing.preignite ≤ l.age i o := by
    rwa [l.before_timing, hb.t0] at hpre
  have ho : l.Opens i o := hb.opens hstate hage
  refine ⟨i, hidle, hlit, hb.t0, ho, ho.in_window_iff, ho.in_window_of_close, ?_⟩
  intro hlate
  have huncut : ¬ l.Cuts i o := by
    rw [← hb.endReason?_eq_none_iff, hstate]
    exact hnone
  have hcut : l.Cuts i (o + 1) :=
    .inr (.inr ⟨hnext, Nat.le_trans hlate (l.age_le i (Nat.le_succ o))⟩)
  exact ⟨hnext, (hb.next huncut).1.finish hcut⟩

/-- The standard configuration, polled every 250 ms. -/
theorem opens_in_window_iff_of_standard :
    let c := StandConfig.standard
    let l : Timeline := {
      profile := c.profile, timing := c.timing
      polls := fun n => ⟨250000000 * n, ⟨true, false⟩⟩
      clock := fun _ _ h => Nat.mul_le_mul_left 250000000 h }
    c.validate = .ok () ∧ l.timing = c.timing ∧
      (∀ w ∈ l.profile.openLevels, w ∈ (l.step 2).writes) ∧
      ∃ i, l.Opens i 2 ∧ l.age i 2 < l.timing.hotflow := by
  intro c l
  have hvalid : StandConfig.standard.validate = .ok () := rfl
  have hopen : ∀ w ∈ l.profile.openLevels, w ∈ (l.step 2).writes := by decide
  obtain ⟨-, i, -, -, -, ho, -, hclose, -⟩ := opens_in_window_iff hvalid l rfl 2 hopen
  exact ⟨hvalid, rfl, hopen, i, ho, hclose (by decide)⟩

/-- A valid configuration polled every ten seconds, exactly its interval: the poll
after the igniter comes seven seconds after the end of hotflow, and opens the
valves. -/
theorem opens_after_hotflow_of_slow_polls :
    let c : StandConfig :=
      { StandConfig.standard with engine := .generic, schedule := ⟨500, 3000, 10000⟩ }
    let l : Timeline := {
      profile := c.profile, timing := c.timing
      polls := fun n => ⟨c.timing.poll * n, ⟨true, false⟩⟩
      clock := fun _ _ h => Nat.mul_le_mul_left c.timing.poll h }
    c.validate = .ok () ∧ (l.before 0).state = .idle ∧ (l.step 0).sequencer.state = .igniting ∧
      (l.step 1).writes = l.profile.openLevels ∧ l.age 0 1 = l.timing.hotflow + 7000000000 :=
  ⟨rfl, rfl, rfl, rfl, rfl⟩

end Timeline

end HotFire
