import HotFire.Proofs.Engine.Step

/-! The schedule of a burn, over runs of any length in which every step may come
late and find any flags. Between its first poll and the one that cuts it, a burn
is a matter of its age alone. -/

namespace HotFire

/-- What a step finds. -/
structure Poll where
  now : Nat
  flags : SafetyFlags

/-- An engine, its times, and what each step of a run finds. -/
structure Timeline where
  profile : EngineProfile
  timing : BurnTiming
  polls : Nat → Poll
  clock : ∀ m n, m ≤ n → (polls m).now ≤ (polls n).now

def EngineProfile.plansPulses (p : EngineProfile) : Bool :=
  p.gitvc?.any fun plan => !plan.pulses.isEmpty

namespace Timeline

/-- The sequencer as step `n` finds it. -/
def before (l : Timeline) : Nat → Sequencer
  | 0 => (Sequencer.start l.profile l.timing).1
  | n + 1 => ((l.before n).step (l.polls n).now (l.polls n).flags).sequencer

def step (l : Timeline) (n : Nat) : Stepped :=
  (l.before n).step (l.polls n).now (l.polls n).flags

/-- How old the burn that step `i` lit is at step `k`. -/
def age (l : Timeline) (i k : Nat) : Nat := (l.polls k).now - (l.polls i).now

/-- Step `k` has a reason to end the burn that step `i` lit. -/
def Cuts (l : Timeline) (i k : Nat) : Prop :=
  (l.polls k).flags.ignition = false ∨
    (l.polls k).flags.shutoff = true ∧ l.timing.shutoffArm ≤ l.age i k ∨
    (l.before k).state = .mainValveOpen ∧ l.timing.hotflow ≤ l.age i k

/-- Step `o` is the first after step `i` to find preignite over. -/
def Opens (l : Timeline) (i o : Nat) : Prop :=
  i < o ∧ l.timing.preignite ≤ l.age i o ∧
    ∀ m, i < m → m < o → l.age i m < l.timing.preignite

/-- The train that step `o` starts, after `n` more polls. -/
def train (l : Timeline) (o : Nat) : Nat → Option PulseTrain
  | 0 => l.profile.gitvc?.bind fun plan => PulseTrain.start? plan (l.polls o).now
  | n + 1 => (l.train o n).map fun t => (t.poll (l.polls (o + n + 1)).now).1

/-- The edge that falls due at poll `n + 1` after step `o`. -/
def edge? (l : Timeline) (o n : Nat) : Option PinWrite :=
  (l.train o n).bind fun t => (t.poll (l.polls (o + n + 1)).now).2

variable {l : Timeline} {i j k o : Nat}

theorem before_succ (l : Timeline) (n : Nat) : l.before (n + 1) = (l.step n).sequencer := rfl

theorem before_tidy (l : Timeline) (n : Nat) : (l.before n).Tidy := by
  induction n with
  | zero => exact Sequencer.start_tidy l.profile l.timing
  | succ n ih => exact ih.step _ _

theorem step_move (l : Timeline) (n : Nat) :
    (l.before n).Move (l.polls n).now (l.polls n).flags (l.step n) :=
  (l.before_tidy n).move (l.polls n).now (l.polls n).flags

theorem before_profile (l : Timeline) (n : Nat) :
    (l.before n).machine.context.profile = l.profile := by
  induction n with
  | zero => rfl
  | succ n ih => exact (Sequencer.step_profile (l.before_tidy n) _ _).trans ih

theorem before_timing (l : Timeline) (n : Nat) :
    (l.before n).machine.context.timing = l.timing := by
  induction n with
  | zero => rfl
  | succ n ih => exact (Sequencer.step_timing (l.before_tidy n) _ _).trans ih

theorem age_le (l : Timeline) (i : Nat) (h : k ≤ j) : l.age i k ≤ l.age i j := by
  have hle := l.clock k j h
  exact Nat.sub_le_sub_right hle _

theorem Opens.lt_of_age (h : l.Opens i o) (hk : i < k) (ha : l.timing.preignite ≤ l.age i k) :
    o ≤ k := by
  apply Nat.le_of_not_lt
  intro hlt
  exact absurd ha (Nat.not_le_of_lt (h.2.2 k hk hlt))

theorem Opens.unique {o' : Nat} (h : l.Opens i o) (h' : l.Opens i o') : o = o' := by
  have hle := h.lt_of_age h'.1 h'.2.1
  have hge := h'.lt_of_age h.1 h.2.1
  omega

theorem train_isSome (l : Timeline) (o n : Nat) :
    (l.train o n).isSome = l.profile.plansPulses := by
  induction n with
  | zero =>
    cases hp : l.profile.gitvc? with
    | none => simp [train, EngineProfile.plansPulses, hp]
    | some plan =>
      by_cases he : plan.pulses = [] <;>
        simp [train, EngineProfile.plansPulses, PulseTrain.start?, hp, he]
  | succ n ih => rw [train, Option.isSome_map, ih]

/-- A sequencer that step `k` finds in the burn that step `i` lit: it waits to open
its valves, or opened them `n + 1` polls ago. -/
structure Burning (l : Timeline) (i k : Nat) (s : Sequencer) : Prop where
  lit : i < k
  t0 : s.machine.context.t0 = (l.polls i).now
  phase : s.state = .igniting ∧ (∀ m, i < m → m < k → l.age i m < l.timing.preignite) ∨
    s.state = .mainValveOpen ∧
      ∃ o n, l.Opens i o ∧ k = o + n + 1 ∧ s.machine.context.train = l.train o n

theorem Burning.state {s : Sequencer} (h : l.Burning i k s) :
    s.state = .igniting ∨ s.state = .mainValveOpen :=
  h.phase.imp And.left And.left

theorem Burning.endReason?_eq_none_iff (h : l.Burning i k (l.before k)) :
    ((l.before k).inputs (l.polls k).now (l.polls k).flags).endReason? (l.before k).state = none ↔
      ¬ l.Cuts i k := by
  have hstate := h.state
  rw [BurnContext.endReason?_eq_none_iff, BurnContext.abortReason_eq_none_iff]
  simp only [Sequencer.inputs_ignition, Sequencer.inputs_shutoff, Sequencer.inputs_timing,
    Sequencer.inputs_elapsed, l.before_timing, h.t0, hstate, forall_const]
  simp only [Cuts, age, not_or, not_and, Nat.not_le, Bool.not_eq_false, and_assoc]

theorem pulse_eq {c : BurnContext} {n : Nat} (hnow : c.now = (l.polls (o + n + 1)).now)
    (ht : c.train = l.train o n) : c.pulse = (l.train o (n + 1), (l.edge? o n)) := by
  rw [BurnContext.pulse, edge?, train, ← ht, hnow]
  cases c.train <;> rfl

/-- What a step does that leaves the burn alone. -/
structure Continues (l : Timeline) (i k : Nat) (r : Stepped) : Prop where
  state : r.sequencer.state =
    if l.timing.preignite ≤ l.age i k then .mainValveOpen else .igniting
  flags : r.flags (l.polls k).flags = (l.polls k).flags
  waits : l.age i k < l.timing.preignite → r.writes = []
  opens : l.Opens i k → r.writes = l.profile.openLevels
  pulses : ∀ o n, l.Opens i o → k = o + n + 1 → r.writes = (l.edge? o n).toList

theorem Burning.next (h : l.Burning i k (l.before k)) (hno : ¬ l.Cuts i k) :
    l.Burning i (k + 1) (l.step k).sequencer ∧ l.Continues i k (l.step k) := by
  have hnone := h.endReason?_eq_none_iff.mpr hno
  have hage : (l.polls k).now - (l.before k).machine.context.t0 = l.age i k := by
    rw [h.t0, age]
  have hlit : i < k + 1 := Nat.lt_succ_of_lt h.lit
  have hm := l.step_move k
  generalize l.step k = r at hm ⊢
  cases hm with
  | wait hs _ | ignite hs _ | settle hs =>
    rcases h.state with hp | hp <;> rw [hp] at hs <;> cases hs
  | finish r hs hr =>
    rw [hnone] at hr
    cases hr
  | burn hs hr ht =>
    rw [l.before_timing, Sequencer.inputs_elapsed, hage] at ht
    have hyoung : ∀ m, i < m → m < k + 1 → l.age i m < l.timing.preignite := by
      intro m _ hm
      exact Nat.lt_of_le_of_lt (l.age_le i (by omega)) ht
    refine ⟨⟨hlit, h.t0, .inl ⟨rfl, hyoung⟩⟩, ?_, by simp, by simp, ?_, ?_⟩
    · exact (if_neg (Nat.not_le_of_lt ht)).symm
    · intro ho
      exact absurd ho.2.1 (Nat.not_le_of_lt ht)
    · intro o n ho hk
      exact absurd ho.2.1 (Nat.not_le_of_lt (hyoung o ho.1 (by omega)))
  | openValves hs hr ht =>
    rw [l.before_timing, Sequencer.inputs_elapsed, hage] at ht
    obtain ⟨-, hyoung⟩ | ⟨hp, -⟩ := h.phase
    · have hopen : l.Opens i k := ⟨h.lit, ht, hyoung⟩
      refine ⟨⟨hlit, h.t0, .inr ⟨rfl, k, 0, hopen, rfl, ?_⟩⟩, ?_, by simp, ?_, ?_, ?_⟩
      · show ((l.before k).machine.context.profile.gitvc?.bind fun plan => _) = _
        rw [l.before_profile]
        rfl
      · exact (if_pos ht).symm
      · intro hlt
        exact absurd ht (Nat.not_le_of_lt hlt)
      · intro _
        rw [Sequencer.writing_writes, l.before_profile]
      · intro o n ho hk
        have heq := ho.unique hopen
        omega
    · rw [hp] at hs
      cases hs
  | flow hs hr ht =>
    obtain ⟨hp, -⟩ | ⟨-, o, n, ho, rfl, htrain⟩ := h.phase
    · rw [hp] at hs
      cases hs
    · have hold : l.timing.preignite ≤ l.age i (o + n + 1) :=
        Nat.le_trans ho.2.1 (l.age_le i (by omega))
      have hpulse := pulse_eq (c := (l.before (o + n + 1)).inputs _ (l.polls (o + n + 1)).flags)
        rfl htrain
      refine ⟨⟨hlit, h.t0, .inr ⟨rfl, o, n + 1, ho, rfl, ?_⟩⟩, ?_, by simp, ?_, ?_, ?_⟩
      · exact congrArg Prod.fst hpulse
      · exact (if_pos hold).symm
      · intro hlt
        exact absurd hold (Nat.not_le_of_lt hlt)
      · intro hopen
        have heq := hopen.unique ho
        omega
      · intro o' n' ho' hk
        obtain rfl := ho.unique ho'
        obtain rfl : n = n' := by omega
        rw [Sequencer.writing_writes, hpulse]

/-- Why step `j` ends the burn that step `i` lit. -/
def outcome (l : Timeline) (i j : Nat) : BurnOutcome :=
  if (l.polls j).flags.ignition = false then .aborted
  else if (l.polls j).flags.shutoff = true ∧ l.timing.shutoffArm ≤ l.age i j then .pressureShutoff
  else .completed

/-- What a step does that cuts the burn. -/
structure Finishes (l : Timeline) (i j : Nat) (r : Stepped) : Prop where
  state : r.sequencer.state = .ending
  lastOutcome : r.sequencer.lastOutcome = some (l.outcome i j)
  ignition : (r.flags (l.polls j).flags).ignition = false
  writes : r.writes =
    (if (l.before j).state = .mainValveOpen ∧ l.profile.plansPulses = true then
      [(Pin.gitvcValve, gitvcOff)] else []) ++ l.profile.endLevels

theorem Burning.closing_eq (h : l.Burning i j (l.before j)) :
    ((l.before j).inputs (l.polls j).now (l.polls j).flags).closing =
      if (l.before j).state = .mainValveOpen ∧ l.profile.plansPulses = true then
        [(Pin.gitvcValve, gitvcOff)] else [] := by
  rw [BurnContext.closing, Sequencer.inputs_train]
  rcases h.phase with ⟨hs, -⟩ | ⟨hs, o, n, -, -, htrain⟩
  · simp [hs, (l.before_tidy j).train (by simp [hs])]
  · have hsome := l.train_isSome o n
    rw [htrain]
    cases ht : l.train o n <;> simp [hs, ← hsome, ht]

theorem Burning.outcome_eq (h : l.Burning i j (l.before j)) :
    (((l.before j).inputs (l.polls j).now (l.polls j).flags).abortReason).getD .completed =
      l.outcome i j := by
  simp only [BurnContext.abortReason, outcome, age, Sequencer.inputs_ignition,
    Sequencer.inputs_shutoff, Sequencer.inputs_timing, Sequencer.inputs_elapsed,
    l.before_timing, h.t0]
  cases (l.polls j).flags.ignition with
  | false => rfl
  | true =>
    cases (l.polls j).flags.shutoff with
    | false => rfl
    | true =>
      by_cases ha : l.timing.shutoffArm ≤ (l.polls j).now - (l.polls i).now <;> simp [ha]

theorem Burning.finish (h : l.Burning i j (l.before j)) (hcut : l.Cuts i j) :
    l.Finishes i j (l.step j) := by
  have hend : ((l.before j).inputs (l.polls j).now (l.polls j).flags).endReason?
      (l.before j).state ≠ none := fun hnone => h.endReason?_eq_none_iff.mp hnone hcut
  have hclosing := h.closing_eq
  have hm := l.step_move j
  generalize l.step j = r at hm ⊢
  cases hm with
  | wait hs _ | ignite hs _ | settle hs =>
    rcases h.state with hp | hp <;> rw [hp] at hs <;> cases hs
  | burn hs hr ht | openValves hs hr ht =>
    rw [hs] at hend
    exact absurd hr hend
  | flow hs hr ht =>
    exact absurd ((BurnContext.endReason?_eq_none_iff _ _).mpr ⟨fun _ => hr, fun _ => ht⟩) hend
  | finish r hs hr =>
    refine ⟨rfl, ?_, by simp, ?_⟩
    · exact congrArg some ((BurnContext.endReason?_eq_some hr).trans h.outcome_eq)
    · rw [Sequencer.finishing_writes, hclosing, l.before_profile]

theorem burning_of_ignite (hidle : (l.before i).state = .idle)
    (hlit : (l.step i).sequencer.state = .igniting) :
    l.Burning i (i + 1) (l.before (i + 1)) ∧ (l.step i).writes = [(Pin.igniter, .high)] := by
  rw [before_succ]
  have hm := l.step_move i
  generalize l.step i = r at hm hlit ⊢
  cases hm with
  | wait hs _ => cases hlit
  | ignite hs hf =>
    refine ⟨⟨Nat.lt_succ_self i, rfl, .inl ⟨rfl, ?_⟩⟩, by simp⟩
    intro m hm hm'
    omega
  | _ => simp_all

theorem burning_of_uncut (hidle : (l.before i).state = .idle)
    (hlit : (l.step i).sequencer.state = .igniting) (hik : i < k)
    (hno : ∀ m, i < m → m < k → ¬ l.Cuts i m) : l.Burning i k (l.before k) := by
  induction k with
  | zero => omega
  | succ k ih =>
    by_cases hk : i = k
    · subst hk
      exact (burning_of_ignite hidle hlit).1
    · have hb := ih (by omega) fun m hm hm' => hno m hm (by omega)
      exact (hb.next (hno k (by omega) (by omega))).1

theorem settles (h : (l.step j).sequencer.state = .ending) :
    (l.step (j + 1)).sequencer.state = .idle ∧ (l.step (j + 1)).writes = [] := by
  rw [← before_succ] at h
  have hm := l.step_move (j + 1)
  generalize l.step (j + 1) = r at hm ⊢
  cases hm with
  | settle hs => exact ⟨rfl, by simp⟩
  | _ => simp_all

instance (l : Timeline) (i k : Nat) : Decidable (l.Cuts i k) :=
  inferInstanceAs (Decidable (_ ∨ _ ∧ _ ∨ _ ∧ _))

/-- A burn runs to its schedule. Up to the first poll that cuts it, its state and
its writes are those of its age; that poll ends it, and the next brings the
sequencer to rest. -/
theorem burn_runs_to_schedule (l : Timeline) (i : Nat) (hidle : (l.before i).state = .idle)
    (hlit : (l.step i).sequencer.state = .igniting) :
    (l.step i).writes = [(Pin.igniter, .high)] ∧
      (∀ k, i < k → (∀ m, i < m → m ≤ k → ¬ l.Cuts i m) → l.Continues i k (l.step k)) ∧
      ∀ j, i < j → l.Cuts i j → (∀ m, i < m → m < j → ¬ l.Cuts i m) →
        l.Finishes i j (l.step j) ∧ (l.step (j + 1)).sequencer.state = .idle ∧
          (l.step (j + 1)).writes = [] := by
  refine ⟨(burning_of_ignite hidle hlit).2, ?_, ?_⟩
  · intro k hik hno
    have hb := burning_of_uncut hidle hlit hik fun m hm hm' => hno m hm (Nat.le_of_lt hm')
    exact (hb.next (hno k hik (Nat.le_refl k))).2
  · intro j hij hcut hno
    have hf := (burning_of_uncut hidle hlit hij hno).finish hcut
    exact ⟨hf, settles hf.state⟩

/-- A burn polled every 10 ns that completes at its fifth poll. -/
theorem burn_runs_to_schedule_of_luna :
    let l : Timeline := {
      profile := .luna (some ⟨5, 5, [10]⟩), timing := ⟨20, 50, 100, 10⟩
      polls := fun n => ⟨10 * n, ⟨true, false⟩⟩
      clock := fun _ _ h => Nat.mul_le_mul_left 10 h }
    (l.before 0).state = .idle ∧ (l.step 0).sequencer.state = .igniting ∧
      (l.step 0).writes = [(Pin.igniter, .high)] ∧
      (∀ k, 0 < k → k < 5 → l.Continues 0 k (l.step k)) ∧ l.Finishes 0 5 (l.step 5) ∧
      (l.step 6).sequencer.state = .idle := by
  intro l
  have hno : ∀ m, m < 5 → 0 < m → ¬ l.Cuts 0 m := by decide
  have hcut : l.Cuts 0 5 := by decide
  obtain ⟨hw, hgo, hend⟩ := burn_runs_to_schedule l 0 rfl rfl
  obtain ⟨hf, hs, -⟩ := hend 5 (by omega) hcut fun m hm hm' => hno m hm' hm
  refine ⟨rfl, rfl, hw, ?_, hf, hs⟩
  intro k hk hk'
  exact hgo k hk fun m hm hm' => hno m (by omega) hm

end Timeline

end HotFire
