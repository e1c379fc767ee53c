import HotFire.Proofs.Engine.Reuse

/-! No write of a burn is lost or put off. A poll may run three handlers, and each may ask
for writes, but all of them together never fill the queue, which every step empties. Times
have no end here, so that no handler stops short at a deadline past the last of them. -/

namespace HotFire

/-- The writes that wait, and those that were dropped because too many did. -/
structure WriteQueue where
  waiting : List PinWrite
  dropped : List PinWrite

/-- A call for a write, and the queue that it meets. -/
structure WriteCall where
  queue : WriteQueue
  asked : PinWrite

namespace WriteQueue

def push (q : WriteQueue) (w : PinWrite) : WriteQueue :=
  if q.waiting.length < BurnContext.maxWrites then { q with waiting := q.waiting ++ [w] }
  else { q with dropped := q.dropped ++ [w] }

def pushAll (q : WriteQueue) (ws : List PinWrite) : WriteQueue := ws.foldl push q

/-- The calls that ask for these writes in turn. -/
def calls (q : WriteQueue) : List PinWrite → List WriteCall
  | [] => []
  | w :: ws => ⟨q, w⟩ :: (q.push w).calls ws

variable {q : WriteQueue} {ws : List PinWrite}

theorem push_of_room {w : PinWrite} (h : q.waiting.length < BurnContext.maxWrites) :
    q.push w = { q with waiting := q.waiting ++ [w] } := if_pos h

theorem pushAll_append (q : WriteQueue) (ws ws' : List PinWrite) :
    q.pushAll (ws ++ ws') = (q.pushAll ws).pushAll ws' := List.foldl_append

theorem pushAll_of_room (h : q.waiting.length + ws.length ≤ BurnContext.maxWrites) :
    q.pushAll ws = { q with waiting := q.waiting ++ ws } := by
  induction ws generalizing q with
  | nil => simp [pushAll]
  | cons w ws ih =>
    rw [List.length_cons] at h
    have hpush : q.push w = { q with waiting := q.waiting ++ [w] } := push_of_room (by omega)
    have hrest := ih (q := { q with waiting := q.waiting ++ [w] }) (by simp; omega)
    rw [pushAll, List.foldl_cons, hpush]
    simpa [pushAll] using hrest

theorem calls_append (q : WriteQueue) (ws ws' : List PinWrite) :
    q.calls (ws ++ ws') = q.calls ws ++ (q.pushAll ws).calls ws' := by
  induction ws generalizing q with
  | nil => rfl
  | cons w ws ih => exact congrArg (WriteCall.mk q w :: ·) (ih (q.push w))

theorem map_asked_calls (q : WriteQueue) (ws : List PinWrite) :
    (q.calls ws).map WriteCall.asked = ws := by
  induction ws generalizing q with
  | nil => rfl
  | cons w ws ih => exact congrArg (w :: ·) (ih (q.push w))

theorem room_of_mem_calls (h : q.waiting.length + ws.length ≤ BurnContext.maxWrites)
    {call : WriteCall} (hcall : call ∈ q.calls ws) :
    call.queue.waiting.length < BurnContext.maxWrites := by
  induction ws generalizing q with
  | nil => cases hcall
  | cons w ws ih =>
    rw [List.length_cons] at h
    rcases List.mem_cons.mp hcall with rfl | hlater
    · exact Nat.lt_of_lt_of_le (Nat.lt_add_of_pos_right (Nat.succ_pos _)) h
    · refine ih ?_ hlater
      rw [push_of_room (by omega), List.length_append, List.length_singleton]
      omega

end WriteQueue

def Notice.dropped? : Notice → Option PinWrite
  | .writeDropped pin level => some (pin, level)
  | _ => none

theorem PulseTrain.pollNotices_dropped (t : PulseTrain) (now : Nat) :
    (t.pollNotices now).filterMap Notice.dropped? = [] := by
  rw [pollNotices]
  split
  · rfl
  · cases t.opens? <;> rfl

namespace BurnContext

def queue (c : BurnContext) : WriteQueue := ⟨c.writes, c.notices.filterMap Notice.dropped?⟩

theorem queue_write (c : BurnContext) (w : PinWrite) : (c.write w).queue = c.queue.push w := by
  by_cases h : c.writes.length < maxWrites
  · have hwrite : c.write w = { c with writes := c.writes ++ [w] } := if_pos h
    rw [hwrite]
    exact (if_pos h).symm
  · have hwrite : c.write w = c.note (.writeDropped w.1 w.2) := if_neg h
    have hdropped : (c.note (.writeDropped w.1 w.2)).queue =
        { c.queue with dropped := c.queue.dropped ++ [w] } := by
      rw [queue, note, List.filterMap_append]
      rfl
    rw [hwrite, hdropped]
    exact (if_neg h).symm

theorem queue_writeAll (c : BurnContext) (ws : List PinWrite) :
    (c.writeAll ws).queue = c.queue.pushAll ws := by
  induction ws generalizing c with
  | nil => rfl
  | cons w ws ih =>
    have hrest := ih (c.write w)
    rw [queue_write] at hrest
    exact hrest

theorem queue_of_quiet {c c' : BurnContext} {ns : List Notice} (hw : c'.writes = c.writes)
    (hn : c'.notices = c.notices ++ ns) (hquiet : ns.filterMap Notice.dropped? = []) :
    c'.queue = c.queue := by
  rw [queue, hw, hn, List.filterMap_append, hquiet, List.append_nil, queue]

theorem queue_note (c : BurnContext) {n : Notice} (h : n.dropped? = none) :
    (c.note n).queue = c.queue :=
  queue_of_quiet rfl rfl (List.filterMap_cons_none h)

end BurnContext

/-- A handler asks for these writes in turn, whatever waits already, and touches the queue
in no other way. -/
def Asks (act : BurnContext → BurnContext) (ws : BurnContext → List PinWrite) : Prop :=
  ∀ c, (act c).queue = c.queue.pushAll (ws c)

namespace BurnState

def asksOnEnter : BurnState → BurnContext → List PinWrite
  | .idle, _ => []
  | .igniting, _ => [(Pin.igniter, .high)]
  | .mainValveOpen, c => c.profile.openLevels
  | .ending, c => c.profile.endLevels

def asksOnExit : BurnState → BurnContext → List PinWrite
  | .mainValveOpen, c => c.closing
  | .idle, _ | .igniting, _ | .ending, _ => []

/-- A poll that ends the burn leaves its train alone. -/
def asksOnUpdate : BurnState → BurnContext → List PinWrite
  | .mainValveOpen, c => if c.endReason? .mainValveOpen = none then c.pulse.2.toList else []
  | .idle, _ | .igniting, _ | .ending, _ => []

end BurnState

theorem MainValveOpen.queue_startTrain (c : BurnContext) : (startTrain c).queue = c.queue := by
  rw [startTrain]
  cases c.profile.gitvc? with
  | none => rfl
  | some plan =>
    cases h : PulseTrain.start? plan c.now with
    | none => simp only [h]; rfl
    | some train =>
      simp only [h]
      exact BurnContext.queue_note { c with train := some train } rfl

theorem MainValveOpen.enter_asks : Asks enter fun c => c.profile.openLevels := by
  intro c
  rw [enter, queue_startTrain, BurnContext.queue_note _ rfl, BurnContext.queue_writeAll]

theorem MainValveOpen.exit_asks : Asks exit BurnContext.closing := by
  intro c
  obtain ⟨_, _, _, _, _, _, _, train, _, _, _⟩ := c
  cases train with
  | none => rfl
  | some t => exact BurnContext.queue_write _ _

theorem MainValveOpen.pollTrain_asks : Asks pollTrain fun c => c.pulse.2.toList := by
  intro c
  cases ht : c.train with
  | none => simp only [pollTrain, BurnContext.pulse, ht]; rfl
  | some t =>
    let polled : BurnContext :=
      { c with train := some (t.poll c.now).1, notices := c.notices ++ t.pollNotices c.now }
    have hpolled : polled.queue = c.queue :=
      BurnContext.queue_of_quiet rfl rfl (t.pollNotices_dropped c.now)
    cases he : (t.poll c.now).2 with
    | none =>
      simp only [pollTrain, BurnContext.pulse, ht, he]
      exact hpolled
    | some w =>
      simp only [pollTrain, BurnContext.pulse, ht, he, BurnContext.queue_write]
      exact congrArg (WriteQueue.push · w) hpolled

theorem MainValveOpen.update_asks :
    Asks (fun c => (update c).1) BurnState.mainValveOpen.asksOnUpdate := by
  intro c
  cases hr : c.endReason? .mainValveOpen with
  | some r =>
    have hasks : BurnState.mainValveOpen.asksOnUpdate c = [] := if_neg (by simp [hr])
    simp only [hasks, update_of_end hr]
    rfl
  | none =>
    have hasks : BurnState.mainValveOpen.asksOnUpdate c = c.pulse.2.toList := if_pos hr
    simp only [hasks, update_of_flow hr]
    exact pollTrain_asks c

theorem Igniting.enter_asks : Asks enter fun _ => [(Pin.igniter, .high)] := by
  intro c
  rw [enter, BurnContext.queue_note _ rfl, BurnContext.queue_write]
  rfl

theorem Igniting.update_asks : Asks (fun c => (update c).1) fun _ => [] := by
  intro c
  simp only [update]
  cases c.abortReason <;> rfl

theorem Ending.enter_asks : Asks enter fun c => c.profile.endLevels := by
  intro c
  rw [enter, BurnContext.queue_note _ rfl]
  exact c.queue_writeAll c.profile.endLevels

namespace BurnState

theorem enter_asks (st : BurnState) : Asks st.phase.runEnter st.asksOnEnter := by
  cases st with
  | idle => exact fun c => c.queue_note rfl
  | igniting => exact Igniting.enter_asks
  | mainValveOpen => exact MainValveOpen.enter_asks
  | ending => exact Ending.enter_asks

theorem exit_asks (st : BurnState) : Asks st.phase.runExit st.asksOnExit := by
  cases st with
  | idle | igniting | ending => exact fun _ => rfl
  | mainValveOpen => exact MainValveOpen.exit_asks

theorem update_asks (st : BurnState) :
    Asks (fun c => (st.phase.update c).1) st.asksOnUpdate := by
  cases st with
  | idle | ending => exact fun _ => rfl
  | igniting => exact Igniting.update_asks
  | mainValveOpen => exact MainValveOpen.update_asks

theorem asksOnEnter_length_le (st : BurnState) (c : BurnContext) :
    (st.asksOnEnter c).length ≤ 4 := by
  cases st with
  | idle => exact Nat.zero_le 4
  | igniting => exact Nat.le_add_left 1 3
  | mainValveOpen => exact Nat.le_succ_of_le c.profile.openLevels_length_le
  | ending => exact c.profile.endLevels_length_le

theorem asksOnExit_length_le (st : BurnState) (c : BurnContext) :
    (st.asksOnExit c).length ≤ 1 := by
  cases st with
  | idle | igniting | ending => exact Nat.zero_le 1
  | mainValveOpen =>
    rw [asksOnExit, BurnContext.closing]
    cases c.train <;> simp

theorem asksOnUpdate_length_le (st : BurnState) (c : BurnContext) :
    (st.asksOnUpdate c).length ≤ 1 := by
  cases st with
  | idle | igniting | ending => exact Nat.zero_le 1
  | mainValveOpen =>
    rw [asksOnUpdate]
    split
    · cases c.pulse.2 <;> simp
    · exact Nat.zero_le 1

end BurnState

namespace BurnMachine

/-- The calls for writes in a poll: those of the update and, on the way to another state,
those of the exit and of the other's entry. -/
def calls (m : BurnMachine) : List WriteCall :=
  let (c, next) := m.state.phase.update m.context
  m.context.queue.calls (m.state.asksOnUpdate m.context) ++
    match next with
    | none => []
    | some target =>
      let leaving := c.note (.transition m.state target)
      let entering := m.state.phase.runExit leaving
      leaving.queue.calls (m.state.asksOnExit leaving) ++
        entering.queue.calls (target.asksOnEnter entering)

/-- A poll puts what its handlers ask for in the queue, one call after the other. -/
theorem tick_queue (m : BurnMachine) :
    ∃ ws, ws.length ≤ 6 ∧ m.calls = m.context.queue.calls ws ∧
      m.tick.context.queue = m.context.queue.pushAll ws := by
  obtain ⟨st, c⟩ := m
  have hupdate : (st.phase.update c).1.queue = c.queue.pushAll (st.asksOnUpdate c) :=
    st.update_asks c
  have hlen := st.asksOnUpdate_length_le c
  cases hu : st.phase.update c with
  | mk c' next =>
    rw [hu] at hupdate
    cases next with
    | none =>
      refine ⟨st.asksOnUpdate c, by omega, ?_, ?_⟩
      · simp [calls, hu]
      · rw [tick_of_stay hu]
        exact hupdate
    | some target =>
      -- each of the three handlers meets the queue that the one before it left
      let leaving := c'.note (.transition st target)
      let entering := st.phase.runExit leaving
      have hleave : leaving.queue = c.queue.pushAll (st.asksOnUpdate c) :=
        (c'.queue_note rfl).trans hupdate
      have hexit : entering.queue = leaving.queue.pushAll (st.asksOnExit leaving) :=
        st.exit_asks leaving
      have henter := target.enter_asks entering
      have hexitLen := st.asksOnExit_length_le leaving
      have henterLen := target.asksOnEnter_length_le entering
      refine ⟨st.asksOnUpdate c ++ (st.asksOnExit leaving ++ target.asksOnEnter entering), ?_, ?_, ?_⟩
      · simp only [List.length_append]
        omega
      · rw [WriteQueue.calls_append, WriteQueue.calls_append, ← hleave, ← hexit]
        simp only [calls, hu]
        rfl
      · rw [WriteQueue.pushAll_append, WriteQueue.pushAll_append, ← hleave, ← hexit,
          tick_of_go hu]
        exact henter

end BurnMachine

namespace Sequencer

theorem step_effects (s : Sequencer) (now : Nat) (f : SafetyFlags) :
    (s.step now f).effects = effectsOf (s.observe now f).tick.context := rfl

theorem clearIgnition_mem_effectsOf (c : BurnContext) :
    .clearIgnition ∈ effectsOf c ↔ c.clearIgnition = true := by
  cases h : c.clearIgnition <;> simp [effectsOf, h]

/-- A step withdraws the request exactly when it ends a burn. -/
theorem Tidy.clearIgnition_iff {s : Sequencer} (h : s.Tidy) (now : Nat) (f : SafetyFlags) :
    (s.observe now f).tick.context.clearIgnition = true ↔
      (s.step now f).sequencer.state = .ending := by
  rw [← clearIgnition_mem_effectsOf, ← step_effects]
  have hm := h.move now f
  generalize s.step now f = r at hm ⊢
  cases hm with
  | finish r hs hr => simp [finishing]
  | _ => simp [writing]

/-- The calls of a step begin on an empty queue, have room in it, and are what it holds in
the end. -/
theorem Tidy.tick_queue {s : Sequencer} (h : s.Tidy) (now : Nat) (f : SafetyFlags) :
    ∃ ws, ws.length ≤ BurnContext.maxWrites ∧
      (s.observe now f).calls = (⟨[], []⟩ : WriteQueue).calls ws ∧
      (s.observe now f).tick.context.queue = ⟨ws, []⟩ := by
  obtain ⟨hwrites, -, hnotices⟩ := h.inputs now f
  have hempty : (s.observe now f).context.queue = ⟨[], []⟩ := by
    change BurnContext.queue (s.inputs now f) = _
    rw [BurnContext.queue, hwrites, hnotices]
    rfl
  obtain ⟨ws, hlen, hcalls, hqueue⟩ := (s.observe now f).tick_queue
  have hroom : ws.length ≤ BurnContext.maxWrites := Nat.le_trans hlen (by decide)
  rw [hempty] at hcalls hqueue
  rw [WriteQueue.pushAll_of_room (by simpa using hroom)] at hqueue
  exact ⟨ws, hroom, hcalls, hqueue⟩

/-- No write of a burn is lost. Before every step no write waits and no request is to be
withdrawn; no call for a write in a step finds the queue full, and none is dropped; and the
step makes the writes called for, in their order, and withdraws the request only after them,
if it ends the burn. -/
theorem writes_made_as_asked (profile : EngineProfile) (timing : BurnTiming)
    (polls : List Poll) (now : Nat) (f : SafetyFlags) :
    let s := (start profile timing).1.after polls
    let calls := (s.observe now f).calls
    let r := s.step now f
    s.machine.context.writes = [] ∧ s.machine.context.clearIgnition = false ∧
      (∀ call ∈ calls, call.queue.waiting.length < BurnContext.maxWrites) ∧
      (∀ pin level, .writeDropped pin level ∉ r.notices) ∧
      r.effects = calls.map (fun call => .write call.asked.1 call.asked.2) ++
        if r.sequencer.state = .ending then [.clearIgnition] else [] := by
  intro s calls r
  have htidy : s.Tidy := ((start_serves profile timing).after polls).tidy
  obtain ⟨ws, hroom, hcalls, hqueue⟩ := htidy.tick_queue now f
  have hmade : (s.observe now f).tick.context.writes = ws := congrArg WriteQueue.waiting hqueue
  have hdropped : r.notices.filterMap Notice.dropped? = [] := congrArg WriteQueue.dropped hqueue
  have hasked : calls.map WriteCall.asked = ws :=
    (congrArg (List.map WriteCall.asked) hcalls).trans (WriteQueue.map_asked_calls _ ws)
  refine ⟨htidy.writes, htidy.clearIgnition, ?_, ?_, ?_⟩
  · intro call hcall
    have hcall' : call ∈ (⟨[], []⟩ : WriteQueue).calls ws := hcalls ▸ (hcall : call ∈ calls)
    exact WriteQueue.room_of_mem_calls (by simpa using hroom) hcall'
  · intro pin level hmem
    have hdrop : (pin, level) ∈ r.notices.filterMap Notice.dropped? :=
      List.mem_filterMap.mpr ⟨_, hmem, rfl⟩
    rw [hdropped] at hdrop
    cases hdrop
  · have hclear := htidy.clearIgnition_iff now f
    rw [step_effects, effectsOf, hmade, ← hasked, List.map_map]
    simp only [hclear]
    rfl

/-- The end of a burn whose GITVC valve is pulsing asks for five writes. -/
example :
    let on : SafetyFlags := ⟨true, false⟩
    let polls : List Poll := [⟨0, on⟩, ⟨20, on⟩, ⟨25, on⟩]
    let s := (start (.luna (some ⟨5, 5, [10]⟩)) ⟨20, 50, 100, 10⟩).1.after polls
    (s.observe 30 ⟨false, false⟩).calls.map WriteCall.asked =
      [(Pin.gitvcValve, .high), (Pin.mainValve, .low), (Pin.igniter, .low),
        (Pin.gitvcValve, .high), (Pin.waterValve, .low)] := by
  decide

end Sequencer

end HotFire
