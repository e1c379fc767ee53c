import HotFire.Engine.Sequencer
import HotFire.Proofs.Lines

/-! What a step of the sequencer can do. Between steps nothing waits to be carried
out, so every step is one of seven moves. -/

namespace HotFire

namespace BurnContext

theorem writeAll_of_room {c : BurnContext} {ws : List PinWrite}
    (h : c.writes.length + ws.length ≤ maxWrites) :
    c.writeAll ws = { c with writes := c.writes ++ ws } := by
  induction ws generalizing c with
  | nil => simp [writeAll]
  | cons w ws ih =>
    simp only [List.length_cons] at h
    have hw : c.write w = { c with writes := c.writes ++ [w] } := if_pos (by omega)
    have hi := ih (c := { c with writes := c.writes ++ [w] }) (by simp; omega)
    simp only [writeAll, List.foldl_cons, hw] at hi ⊢
    simpa using hi

/-- Why a poll in this state ends the burn, if it does. -/
def endReason? (c : BurnContext) : BurnState → Option BurnOutcome
  | .igniting => c.abortReason
  | .mainValveOpen =>
    c.abortReason.or (if c.timing.hotflow ≤ c.elapsed then some .completed else none)
  | .idle | .ending => none

theorem endReason?_eq_none_iff (c : BurnContext) (st : BurnState) :
    c.endReason? st = none ↔
      (st = .igniting ∨ st = .mainValveOpen → c.abortReason = none) ∧
        (st = .mainValveOpen → c.elapsed < c.timing.hotflow) := by
  cases st <;> simp [endReason?]

def closing (c : BurnContext) : List PinWrite :=
  match c.train with
  | none => []
  | some _ => [(Pin.gitvcValve, gitvcOff)]

def opening? (c : BurnContext) : Option PulseTrain :=
  c.profile.gitvc?.bind fun plan => PulseTrain.start? plan c.now

def openingNotices (c : BurnContext) : List Notice :=
  .valvesOpen c.profile.kind c.elapsed ::
    (c.opening?.toList.map fun t => .trainStarting t.plan.pulses.length t.plan.wait)

def pulse (c : BurnContext) : Option PulseTrain × Option PinWrite :=
  match c.train with
  | none => (none, none)
  | some t => (some (t.poll c.now).1, (t.poll c.now).2)

def pulseNotices (c : BurnContext) : List Notice :=
  match c.train with
  | none => []
  | some t => t.pollNotices c.now

end BurnContext

namespace Sequencer

/-- Nothing waits to be carried out, and only an open valve has a train. -/
structure Tidy (s : Sequencer) : Prop where
  writes : s.machine.context.writes = []
  clearIgnition : s.machine.context.clearIgnition = false
  notices : s.machine.context.notices = []
  train : s.state ≠ .mainValveOpen → s.machine.context.train = none

/-- The sequencer's context with the inputs of the moment. -/
def inputs (s : Sequencer) (now : Nat) (f : SafetyFlags) : BurnContext :=
  (s.observe now f).context

section inputs

variable (s : Sequencer) (now : Nat) (f : SafetyFlags)

@[simp] theorem inputs_now : (s.inputs now f).now = now := rfl

@[simp] theorem inputs_ignition : (s.inputs now f).ignition = f.ignition := rfl

@[simp] theorem inputs_shutoff : (s.inputs now f).shutoff = f.shutoff := rfl

@[simp] theorem inputs_profile : (s.inputs now f).profile = s.machine.context.profile := rfl

@[simp] theorem inputs_timing : (s.inputs now f).timing = s.machine.context.timing := rfl

@[simp] theorem inputs_t0 : (s.inputs now f).t0 = s.machine.context.t0 := rfl

@[simp] theorem inputs_train : (s.inputs now f).train = s.machine.context.train := rfl

@[simp] theorem inputs_elapsed :
    (s.inputs now f).elapsed = now - s.machine.context.t0 := rfl

end inputs

def moved (s : Sequencer) (state : BurnState) (c : BurnContext) : Sequencer :=
  { s with machine := ⟨state, c⟩ }

/-- A step that makes these writes and leaves the flags alone. -/
def writing (s : Sequencer) (ws : List PinWrite) (notices : List Notice) : Stepped :=
  ⟨s, ws.map fun w => .write w.1 w.2, notices⟩

/-- A step that makes these writes and then clears the request. -/
def finishing (s : Sequencer) (ws : List PinWrite) (notices : List Notice) : Stepped :=
  ⟨s, ws.map (fun w => .write w.1 w.2) ++ [.clearIgnition], notices⟩

/-- What a step can do: wait, light the igniter, keep it burning, open the
valves, keep them open, end the burn, or come to rest. -/
inductive Move (s : Sequencer) (now : Nat) (f : SafetyFlags) : Stepped → Prop where
  | wait (hs : s.state = .idle) (hf : f.ignition = false) :
      Move s now f ((s.moved .idle (s.inputs now f)).writing [] [])
  | ignite (hs : s.state = .idle) (hf : f.ignition = true) :
      Move s now f
        (({ s with burns := s.burns + 1 }.moved .igniting
          { s.inputs now f with t0 := now, outcome := none }).writing
          [(Pin.igniter, .high)]
          [.transition .idle .igniting,
            .igniting Pin.igniter s.machine.context.timing.preignite])
  | burn (hs : s.state = .igniting) (hr : (s.inputs now f).abortReason = none)
      (ht : (s.inputs now f).elapsed < s.machine.context.timing.preignite) :
      Move s now f ((s.moved .igniting (s.inputs now f)).writing [] [])
  | openValves (hs : s.state = .igniting) (hr : (s.inputs now f).abortReason = none)
      (ht : s.machine.context.timing.preignite ≤ (s.inputs now f).elapsed) :
      Move s now f
        ((s.moved .mainValveOpen { s.inputs now f with train := (s.inputs now f).opening? }).writing
          s.machine.context.profile.openLevels
          (.transition .igniting .mainValveOpen :: (s.inputs now f).openingNotices))
  | flow (hs : s.state = .mainValveOpen) (hr : (s.inputs now f).abortReason = none)
      (ht : (s.inputs now f).elapsed < s.machine.context.timing.hotflow) :
      Move s now f
        ((s.moved .mainValveOpen { s.inputs now f with train := (s.inputs now f).pulse.1 }).writing
          (s.inputs now f).pulse.2.toList (s.inputs now f).pulseNotices)
  | finish (r : BurnOutcome) (hs : s.state = .igniting ∨ s.state = .mainValveOpen)
      (hr : (s.inputs now f).endReason? s.state = some r) :
      Move s now f
        (({ s with lastOutcome := some r }.moved .ending
          { s.inputs now f with outcome := some r, train := none }).finishing
          ((s.inputs now f).closing ++ s.machine.context.profile.endLevels)
          [.transition s.state .ending, .burnEnded r (s.inputs now f).elapsed])
  | settle (hs : s.state = .ending) :
      Move s now f
        ((s.moved .idle (s.inputs now f)).writing [] [.transition .ending .idle, .idle])

end Sequencer

namespace Stepped

theorem writes_map (s : Sequencer) (ws : List PinWrite) (es : List StepEffect)
    (ns : List Notice) :
    (Stepped.mk s (ws.map (fun w => .write w.1 w.2) ++ es) ns).writes =
      ws ++ es.filterMap StepEffect.write? := by
  induction ws with
  | nil => rfl
  | cons w ws ih => simpa [writes, StepEffect.write?] using ih

theorem flags_map (s : Sequencer) (ws : List PinWrite) (es : List StepEffect)
    (ns : List Notice) (f : SafetyFlags) :
    (Stepped.mk s (ws.map (fun w => .write w.1 w.2) ++ es) ns).flags f =
      es.foldl StepEffect.apply f := by
  induction ws with
  | nil => rfl
  | cons w ws ih => simpa [flags, StepEffect.apply] using ih

end Stepped

namespace Sequencer

variable (s : Sequencer) (ws : List PinWrite) (ns : List Notice) (f : SafetyFlags)

@[simp] theorem writing_writes : (s.writing ws ns).writes = ws := by
  simpa [writing] using Stepped.writes_map s ws [] ns

@[simp] theorem writing_flags : (s.writing ws ns).flags f = f := by
  simpa [writing] using Stepped.flags_map s ws [] ns f

@[simp] theorem finishing_writes : (s.finishing ws ns).writes = ws := by
  exact (Stepped.writes_map s ws [.clearIgnition] ns).trans (List.append_nil ws)

@[simp] theorem finishing_flags :
    (s.finishing ws ns).flags f = { f with ignition := false } :=
  Stepped.flags_map s ws [.clearIgnition] ns f

@[simp] theorem writing_sequencer : (s.writing ws ns).sequencer = s := rfl

@[simp] theorem finishing_sequencer : (s.finishing ws ns).sequencer = s := rfl

@[simp] theorem moved_state (st : BurnState) (c : BurnContext) : (s.moved st c).state = st := rfl

@[simp] theorem moved_context (st : BurnState) (c : BurnContext) :
    (s.moved st c).machine.context = c := rfl

@[simp] theorem moved_burns (st : BurnState) (c : BurnContext) :
    (s.moved st c).burns = s.burns := rfl

@[simp] theorem moved_lastOutcome (st : BurnState) (c : BurnContext) :
    (s.moved st c).lastOutcome = s.lastOutcome := rfl

end Sequencer

theorem EngineProfile.openLevels_length_le (p : EngineProfile) : p.openLevels.length ≤ 3 := by
  cases p <;> simp [openLevels]

theorem EngineProfile.endLevels_length_le (p : EngineProfile) : p.endLevels.length ≤ 4 := by
  cases p <;> simp [endLevels]

theorem Igniting.enter_eq {c : BurnContext} (hw : c.writes = []) :
    Igniting.enter c =
      { c with
        t0 := c.now, outcome := none, writes := [(Pin.igniter, .high)]
        notices := c.notices ++ [.igniting Pin.igniter c.timing.preignite] } := by
  simp [Igniting.enter, BurnContext.write, BurnContext.maxWrites, BurnContext.note, hw]

theorem MainValveOpen.enter_eq {c : BurnContext} (hw : c.writes = []) (ht : c.train = none) :
    MainValveOpen.enter c =
      { c with
        train := c.opening?, writes := c.profile.openLevels
        notices := c.notices ++ c.openingNotices } := by
  have hroom := c.profile.openLevels_length_le
  rw [MainValveOpen.enter,
    BurnContext.writeAll_of_room (by simp [hw, BurnContext.maxWrites]; omega)]
  cases hp : c.profile.gitvc? with
  | none =>
    simp [startTrain, BurnContext.note, BurnContext.opening?, BurnContext.openingNotices,
      BurnContext.elapsed, hp, hw, ht]
  | some plan =>
    cases hs : PulseTrain.start? plan c.now with
    | none =>
      simp [startTrain, BurnContext.note, BurnContext.opening?, BurnContext.openingNotices,
        BurnContext.elapsed, hp, hs, hw]
    | some train =>
      have htrain : train.plan = plan := by
        simp only [PulseTrain.start?] at hs
        split at hs
        · cases hs
        · cases hs; rfl
      simp [startTrain, BurnContext.note, BurnContext.opening?, BurnContext.openingNotices,
        BurnContext.elapsed, hp, hs, hw, htrain]

theorem MainValveOpen.exit_eq {c : BurnContext} (hw : c.writes = []) :
    MainValveOpen.exit c = { c with train := none, writes := c.closing } := by
  obtain ⟨_, _, _, _, _, _, _, train, _, _, _⟩ := c
  cases hw
  cases train <;> rfl

theorem MainValveOpen.pollTrain_eq {c : BurnContext} (hw : c.writes = []) :
    pollTrain c =
      { c with
        train := c.pulse.1, writes := c.pulse.2.toList
        notices := c.notices ++ c.pulseNotices } := by
  obtain ⟨now, _, _, _, _, _, _, train, _, _, _⟩ := c
  cases hw
  cases train with
  | none => simp [pollTrain, BurnContext.pulse, BurnContext.pulseNotices]
  | some t =>
    cases he : (t.poll now).2 with
    | none => simp [pollTrain, BurnContext.pulse, BurnContext.pulseNotices, he]
    | some w =>
      simp [pollTrain, BurnContext.pulse, BurnContext.pulseNotices, BurnContext.write,
        BurnContext.maxWrites, he]

theorem MainValveOpen.update_of_end {c : BurnContext} {r : BurnOutcome}
    (h : c.endReason? .mainValveOpen = some r) :
    update c = ({ c with outcome := some r }, some .ending) := by
  cases ha : c.abortReason with
  | some r' =>
    simp only [BurnContext.endReason?, ha, Option.some_or, Option.some.injEq] at h
    simp [update, ha, h]
  | none =>
    by_cases ht : c.timing.hotflow ≤ c.elapsed
    · simp only [BurnContext.endReason?, ha, ht, if_true, Option.none_or, Option.some.injEq] at h
      simp [update, ha, ht, h]
    · simp [BurnContext.endReason?, ha, ht] at h

theorem MainValveOpen.update_of_flow {c : BurnContext} (h : c.endReason? .mainValveOpen = none) :
    update c = (pollTrain c, none) := by
  obtain ⟨ha, ht⟩ := (c.endReason?_eq_none_iff .mainValveOpen).mp h
  simp [update, ha (.inr rfl), Nat.not_le_of_lt (ht rfl)]

theorem Ending.enter_eq {c : BurnContext} {r : BurnOutcome} (hw : c.writes.length ≤ 1)
    (ho : c.outcome = some r) :
    Ending.enter c =
      { c with
        writes := c.writes ++ c.profile.endLevels, clearIgnition := true
        notices := c.notices ++ [.burnEnded r c.elapsed] } := by
  have hroom := c.profile.endLevels_length_le
  rw [Ending.enter, BurnContext.writeAll_of_room (by simp [BurnContext.maxWrites]; omega)]
  simp [BurnContext.note, ho]

namespace BurnMachine

theorem tick_of_stay {st : BurnState} {c c' : BurnContext}
    (h : st.phase.update c = (c', none)) : tick ⟨st, c⟩ = ⟨st, c'⟩ := by
  simp [tick, h]

theorem tick_of_go {st target : BurnState} {c c' : BurnContext}
    (h : st.phase.update c = (c', some target)) : tick ⟨st, c⟩ = goTo ⟨st, c'⟩ target := by
  simp [tick, h]

theorem goTo_igniting {c : BurnContext} (hw : c.writes = []) :
    goTo ⟨.idle, c⟩ .igniting =
      ⟨.igniting,
        { c with
          t0 := c.now, outcome := none, writes := [(Pin.igniter, .high)]
          notices := c.notices ++
            [.transition .idle .igniting, .igniting Pin.igniter c.timing.preignite] }⟩ := by
  simp [goTo, BurnState.phase, Phase.runExit, Phase.runEnter, BurnContext.note,
    Igniting.enter_eq, hw]

theorem goTo_mainValveOpen {c : BurnContext} (hw : c.writes = []) (ht : c.train = none) :
    goTo ⟨.igniting, c⟩ .mainValveOpen =
      ⟨.mainValveOpen,
        { c with
          train := c.opening?, writes := c.profile.openLevels
          notices := c.notices ++
            .transition .igniting .mainValveOpen :: c.openingNotices }⟩ := by
  simp [goTo, BurnState.phase, Phase.runExit, Phase.runEnter, BurnContext.note,
    MainValveOpen.enter_eq, BurnContext.opening?, BurnContext.openingNotices, BurnContext.elapsed,
    hw, ht]

/-- A burn ends alike from both of its states: without a train nothing has to
be closed first. -/
theorem goTo_ending {st : BurnState} {c : BurnContext} {r : BurnOutcome}
    (hs : st = .igniting ∧ c.train = none ∨ st = .mainValveOpen) (hw : c.writes = [])
    (ho : c.outcome = some r) :
    goTo ⟨st, c⟩ .ending =
      ⟨.ending,
        { c with
          train := none, writes := c.closing ++ c.profile.endLevels, clearIgnition := true
          notices := c.notices ++ [.transition st .ending, .burnEnded r c.elapsed] }⟩ := by
  rcases hs with ⟨rfl, ht⟩ | rfl
  · simp [goTo, BurnState.phase, Phase.runExit, Phase.runEnter, BurnContext.note,
      Ending.enter_eq (r := r), BurnContext.closing, BurnContext.elapsed, ht, hw, ho]
  · cases ht : c.train <;>
      simp [goTo, BurnState.phase, Phase.runExit, Phase.runEnter, BurnContext.note,
        MainValveOpen.exit_eq, Ending.enter_eq (r := r), BurnContext.closing, BurnContext.elapsed,
        ht, hw, ho]

theorem goTo_idle (c : BurnContext) :
    goTo ⟨.ending, c⟩ .idle =
      ⟨.idle, { c with notices := c.notices ++ [.transition .ending .idle, .idle] }⟩ := by
  simp [goTo, BurnState.phase, Phase.runExit, Phase.runEnter, BurnContext.note, Idle.enter]

theorem tick_finish {st : BurnState} {c : BurnContext} {r : BurnOutcome}
    (hs : st = .igniting ∧ c.train = none ∨ st = .mainValveOpen) (hw : c.writes = [])
    (hr : c.endReason? st = some r) :
    tick ⟨st, c⟩ =
      ⟨.ending,
        { c with
          outcome := some r, train := none, writes := c.closing ++ c.profile.endLevels
          clearIgnition := true
          notices := c.notices ++ [.transition st .ending, .burnEnded r c.elapsed] }⟩ := by
  have hu : st.phase.update c = ({ c with outcome := some r }, some .ending) := by
    rcases hs with ⟨rfl, -⟩ | rfl
    · simp only [BurnContext.endReason?] at hr
      simp [BurnState.phase, Igniting.update, hr]
    · exact MainValveOpen.update_of_end hr
  exact (tick_of_go hu).trans (goTo_ending (c := { c with outcome := some r }) hs hw rfl)

end BurnMachine

namespace Sequencer

theorem step_eq_of_tick {s : Sequencer} {now : Nat} {f : SafetyFlags} {m : BurnMachine}
    (h : BurnMachine.tick ⟨s.state, s.inputs now f⟩ = m) :
    s.step now f =
      ⟨⟨⟨m.state, settled m.context⟩,
          if s.state == .idle && m.state == .igniting then s.burns + 1 else s.burns,
          if m.state == .ending then m.context.outcome else s.lastOutcome⟩,
        effectsOf m.context, m.context.notices⟩ := by
  subst h
  rfl

theorem settled_of_empty {c : BurnContext} (hw : c.writes = []) (hc : c.clearIgnition = false)
    (hn : c.notices = []) : settled c = c := by
  rw [settled, ← hw, ← hc, ← hn]

theorem Tidy.inputs {s : Sequencer} (h : s.Tidy) (now : Nat) (f : SafetyFlags) :
    (s.inputs now f).writes = [] ∧ (s.inputs now f).clearIgnition = false ∧
      (s.inputs now f).notices = [] :=
  ⟨h.writes, h.clearIgnition, h.notices⟩

theorem move_finish {s : Sequencer} (h : s.Tidy) {now : Nat} {f : SafetyFlags} {r : BurnOutcome}
    (hs : s.state = .igniting ∨ s.state = .mainValveOpen)
    (hr : (s.inputs now f).endReason? s.state = some r) : s.Move now f (s.step now f) := by
  obtain ⟨hw, hc, hn⟩ := h.inputs now f
  have ht : s.state = .igniting ∧ (s.inputs now f).train = none ∨ s.state = .mainValveOpen :=
    hs.imp_left fun hi => ⟨hi, h.train (by simp [hi])⟩
  have he := Move.finish r hs hr
  rw [step_eq_of_tick (BurnMachine.tick_finish ht hw hr)]
  rcases hs with hs | hs <;>
    simpa [hs, settled, effectsOf, finishing, moved, hw, hc, hn] using he

theorem move_idle {s : Sequencer} (h : s.Tidy) (hs : s.state = .idle) (now : Nat)
    (f : SafetyFlags) : s.Move now f (s.step now f) := by
  obtain ⟨hw, hc, hn⟩ := h.inputs now f
  cases hf : f.ignition with
  | false =>
    have hu : s.state.phase.update (s.inputs now f) = (s.inputs now f, none) := by
      simp [hs, BurnState.phase, Idle.update, hf]
    rw [step_eq_of_tick (BurnMachine.tick_of_stay hu), settled_of_empty hw hc hn]
    have he : s.Move now f _ := Move.wait hs hf
    simpa [hs, effectsOf, writing, moved, hw, hc, hn] using he
  | true =>
    have hu : s.state.phase.update (s.inputs now f) = (s.inputs now f, some .igniting) := by
      simp [hs, BurnState.phase, Idle.update, hf]
    rw [step_eq_of_tick (BurnMachine.tick_of_go hu), hs, BurnMachine.goTo_igniting hw]
    have he : s.Move now f _ := Move.ignite hs hf
    simpa [settled, effectsOf, writing, moved, hw, hc, hn] using he

theorem move_igniting {s : Sequencer} (h : s.Tidy) (hs : s.state = .igniting) (now : Nat)
    (f : SafetyFlags) : s.Move now f (s.step now f) := by
  obtain ⟨hw, hc, hn⟩ := h.inputs now f
  have ht : (s.inputs now f).train = none := h.train (by simp [hs])
  cases hr : (s.inputs now f).abortReason with
  | some r => exact move_finish h (.inl hs) (r := r) (by rw [hs]; exact hr)
  | none =>
    by_cases hp : s.machine.context.timing.preignite ≤ now - s.machine.context.t0
    · have hu : s.state.phase.update (s.inputs now f) =
          (s.inputs now f, some .mainValveOpen) := by
        simp [hs, BurnState.phase, Igniting.update, hr, hp]
      rw [step_eq_of_tick (BurnMachine.tick_of_go hu), hs,
        BurnMachine.goTo_mainValveOpen hw ht]
      simpa [settled, effectsOf, writing, moved, hw, hc, hn] using Move.openValves hs hr hp
    · have hu : s.state.phase.update (s.inputs now f) = (s.inputs now f, none) := by
        simp [hs, BurnState.phase, Igniting.update, hr, hp]
      rw [step_eq_of_tick (BurnMachine.tick_of_stay hu), settled_of_empty hw hc hn]
      simpa [hs, effectsOf, writing, moved, hw, hc, hn] using
        Move.burn hs hr (Nat.lt_of_not_le hp)

theorem move_mainValveOpen {s : Sequencer} (h : s.Tidy) (hs : s.state = .mainValveOpen)
    (now : Nat) (f : SafetyFlags) : s.Move now f (s.step now f) := by
  obtain ⟨hw, hc, hn⟩ := h.inputs now f
  cases hr : (s.inputs now f).endReason? .mainValveOpen with
  | some r => exact move_finish h (.inr hs) (r := r) (by rw [hs]; exact hr)
  | none =>
    obtain ⟨ha, ht⟩ := ((s.inputs now f).endReason?_eq_none_iff .mainValveOpen).mp hr
    have hu : s.state.phase.update (s.inputs now f) =
        (MainValveOpen.pollTrain (s.inputs now f), none) := by
      rw [hs]
      exact MainValveOpen.update_of_flow hr
    rw [step_eq_of_tick (BurnMachine.tick_of_stay hu), hs, MainValveOpen.pollTrain_eq hw]
    simpa [settled, effectsOf, writing, moved, hw, hc, hn] using
      Move.flow hs (ha (.inr rfl)) (ht rfl)

theorem move_ending {s : Sequencer} (h : s.Tidy) (hs : s.state = .ending) (now : Nat)
    (f : SafetyFlags) : s.Move now f (s.step now f) := by
  obtain ⟨hw, hc, hn⟩ := h.inputs now f
  have hu : s.state.phase.update (s.inputs now f) = (s.inputs now f, some .idle) := by
    simp [hs, BurnState.phase, Ending.update]
  have hset : settled { s.inputs now f with
      notices := (s.inputs now f).notices ++ [.transition .ending .idle, .idle] } =
      s.inputs now f := settled_of_empty (c := s.inputs now f) hw hc hn
  rw [step_eq_of_tick (BurnMachine.tick_of_go hu), hs, BurnMachine.goTo_idle, hset]
  have he : s.Move now f _ := Move.settle hs
  simpa [effectsOf, writing, moved, hw, hc, hn] using he

/-- Every step of a tidy sequencer is one of the moves. -/
theorem Tidy.move {s : Sequencer} (h : s.Tidy) (now : Nat) (f : SafetyFlags) :
    s.Move now f (s.step now f) := by
  cases hs : s.state with
  | idle => exact move_idle h hs now f
  | igniting => exact move_igniting h hs now f
  | mainValveOpen => exact move_mainValveOpen h hs now f
  | ending => exact move_ending h hs now f

theorem start_tidy (profile : EngineProfile) (timing : BurnTiming) :
    (start profile timing).1.Tidy :=
  ⟨rfl, rfl, rfl, fun _ => rfl⟩

theorem Tidy.step {s : Sequencer} (h : s.Tidy) (now : Nat) (f : SafetyFlags) :
    (s.step now f).sequencer.Tidy := by
  refine ⟨rfl, rfl, rfl, ?_⟩
  intro hne
  have hm := h.move now f
  generalize s.step now f = r at hm hne ⊢
  cases hm with
  | wait hs hf => exact h.train (by simp [hs])
  | ignite hs hf => exact h.train (by simp [hs])
  | burn hs hr ht => exact h.train (by simp [hs])
  | openValves hs hr ht => exact absurd rfl hne
  | flow hs hr ht => exact absurd rfl hne
  | finish r hs hr => rfl
  | settle hs => exact h.train (by simp [hs])

theorem Tidy.ending_writes {s : Sequencer} (h : s.Tidy) {now : Nat} {f : SafetyFlags}
    (hend : (s.step now f).sequencer.state = .ending) :
    (s.step now f).writes = (s.inputs now f).closing ++ s.machine.context.profile.endLevels := by
  have hm := h.move now f
  generalize s.step now f = r at hm hend ⊢
  cases hm with
  | finish r hs hr => rw [finishing_writes]
  | _ => cases hend

/-- A line that the end of a burn takes off a level is at that level only while the
sequencer holds the main valve open. -/
theorem Tidy.held_in_hotflow {s : Sequencer} (h : s.Tidy) {pin : Pin} {level closed : Level}
    (hig : pin ≠ Pin.igniter) (hne : closed ≠ level)
    (hend : lastLevel pin s.machine.context.profile.endLevels = some closed) {now : Nat}
    {f : SafetyFlags} {past : List PinWrite}
    (hwas : lastLevel pin past = some level → s.state = .mainValveOpen)
    (hheld : lastLevel pin (past ++ (s.step now f).writes) = some level) :
    (s.step now f).sequencer.state = .mainValveOpen := by
  have hm := h.move now f
  generalize s.step now f = r at hm hheld ⊢
  cases hm with
  | openValves hs hr ht | flow hs hr ht => rfl
  | wait hs hf | burn hs hr ht | settle hs =>
    rw [writing_writes, List.append_nil] at hheld
    exact absurd (hs.symm.trans (hwas hheld)) (by decide)
  | ignite hs hf =>
    have hother : (pin, level) ∉ [(Pin.igniter, Level.high)] := by
      intro hm
      exact hig (congrArg Prod.fst (List.mem_singleton.mp hm))
    rw [writing_writes] at hheld
    have hold := lastLevel_of_append hheld hother
    exact absurd (hs.symm.trans (hwas hold)) (by decide)
  | finish r hs hr =>
    rw [finishing_writes, ← List.append_assoc, lastLevel_append, hend] at hheld
    exact absurd (Option.some.inj hheld) hne

theorem step_shutoff {s : Sequencer} (h : s.Tidy) (now : Nat) (f : SafetyFlags) :
    ((s.step now f).flags f).shutoff = f.shutoff := by
  have hm := h.move now f
  generalize s.step now f = r at hm ⊢
  cases hm <;> simp

theorem step_profile {s : Sequencer} (h : s.Tidy) (now : Nat) (f : SafetyFlags) :
    (s.step now f).sequencer.machine.context.profile = s.machine.context.profile := by
  have hm := h.move now f
  generalize s.step now f = r at hm ⊢
  cases hm <;> rfl

theorem step_timing {s : Sequencer} (h : s.Tidy) (now : Nat) (f : SafetyFlags) :
    (s.step now f).sequencer.machine.context.timing = s.machine.context.timing := by
  have hm := h.move now f
  generalize s.step now f = r at hm ⊢
  cases hm <;> rfl

end Sequencer

theorem PulseTrain.poll_edge {t : PulseTrain} {now : Nat} {w : PinWrite}
    (h : (t.poll now).2 = some w) : w.1 = Pin.gitvcValve := by
  rw [poll] at h
  split at h
  · cases h
  · split at h <;> cases h <;> rfl

theorem BurnContext.pulse_edge {c : BurnContext} {w : PinWrite} (h : w ∈ c.pulse.2.toList) :
    w.1 = Pin.gitvcValve := by
  obtain ⟨_, _, _, _, _, _, _, train, _, _, _⟩ := c
  cases train with
  | none => cases h
  | some t => exact PulseTrain.poll_edge (Option.mem_toList.mp h)

theorem BurnContext.closing_edge {c : BurnContext} {w : PinWrite} (h : w ∈ c.closing) :
    w = (Pin.gitvcValve, gitvcOff) := by
  obtain ⟨_, _, _, _, _, _, _, train, _, _, _⟩ := c
  cases train with
  | none => cases h
  | some t => exact List.mem_singleton.mp h

theorem BurnContext.high_not_mem_pulse (c : BurnContext) {pin : Pin}
    (hp : pin ≠ Pin.gitvcValve) : (pin, Level.high) ∉ c.pulse.2.toList := by
  intro hm
  exact hp (pulse_edge hm)

/-- The end of a burn raises the GITVC valve and no other line. -/
theorem BurnContext.high_not_mem_finish (c : BurnContext) {pin : Pin}
    (hp : pin ≠ Pin.gitvcValve) : (pin, Level.high) ∉ c.closing ++ c.profile.endLevels := by
  intro hm
  rcases List.mem_append.mp hm with hm | hm
  · exact hp (congrArg Prod.fst (closing_edge hm))
  · cases hprofile : c.profile <;> simp [hprofile, EngineProfile.endLevels, hp] at hm

theorem BurnContext.abortReason_eq_none_iff (c : BurnContext) :
    c.abortReason = none ↔
      c.ignition = true ∧ ¬ (c.shutoff = true ∧ c.timing.shutoffArm ≤ c.elapsed) := by
  cases hi : c.ignition <;> simp [abortReason, hi]

theorem BurnContext.abortReason_eq_shutoff_iff (c : BurnContext) :
    c.abortReason = some .pressureShutoff ↔
      c.ignition = true ∧ c.shutoff = true ∧ c.timing.shutoffArm ≤ c.elapsed := by
  cases hi : c.ignition <;> simp [abortReason, hi]

theorem BurnContext.endReason?_eq_some {c : BurnContext} {st : BurnState} {r : BurnOutcome}
    (h : c.endReason? st = some r) : r = c.abortReason.getD .completed := by
  cases ha : c.abortReason <;> cases st <;> simp_all [endReason?]

end HotFire
