import HotFire.Proofs.Rig.Levels
import HotFire.Proofs.Rig.Stop

/-! What becomes of an accepted start. The request is one flag, so a start that is
accepted while a burn is still under way has nothing of its own: that burn takes
the request over. Every other start begins a burn within two polls. -/

namespace HotFire

/-- The last stop has not been polled yet. -/
def StopUnseen (calls : List Call) : Prop :=
  ∃ before stop since, calls = before ++ stop :: since ∧
    stop.deed = .command .stopIgnition ∧ ∀ c ∈ since, c.deed ≠ .step

theorem StopUnseen.concat {calls : List Call} (h : StopUnseen calls) {c : Call}
    (hc : c.deed ≠ .step) : StopUnseen (calls ++ [c]) := by
  obtain ⟨before, stop, since, rfl, hs, hsince⟩ := h
  refine ⟨before, stop, since ++ [c], by simp, hs, ?_⟩
  intro x hx
  rcases List.mem_append.mp hx with hx | hx
  · exact hsince x hx
  · rw [List.mem_singleton.mp hx]
    exact hc

namespace Sequencer

variable {s : Sequencer} {f : SafetyFlags}

theorem Tidy.step_idle (h : s.Tidy) (hs : s.state = .idle) (hf : f.ignition = true) (now : Nat) :
    (s.step now f).sequencer.burns = s.burns + 1 ∧
      (s.step now f).sequencer.machine.context.t0 = now ∧
      (s.step now f).writes = [(Pin.igniter, .high)] := by
  have hm := h.move now f
  generalize s.step now f = r at hm ⊢
  cases hm with
  | ignite _ _ => exact ⟨rfl, rfl, by simp⟩
  | _ => simp_all

theorem Tidy.step_ending (h : s.Tidy) (hs : s.state = .ending) (now : Nat) :
    (s.step now f).sequencer.state = .idle ∧ (s.step now f).sequencer.burns = s.burns ∧
      (s.step now f).flags f = f := by
  have hm := h.move now f
  generalize s.step now f = r at hm ⊢
  cases hm with
  | settle _ => exact ⟨rfl, rfl, by simp⟩
  | _ => simp_all

end Sequencer

namespace Rig

/-- No start among these calls is accepted. -/
def Unstarted (r : Rig) (calls : List Call) : Prop :=
  ∀ u c v, calls = u ++ c :: v → ¬ (r.after u).Starts c

theorem unstarted_nil (r : Rig) : r.Unstarted [] := by
  intro u c v h
  simp at h

theorem unstarted_cons_iff {r : Rig} {c : Call} {calls : List Call} :
    r.Unstarted (c :: calls) ↔ ¬ r.Starts c ∧ (r.act c.action).1.Unstarted calls := by
  constructor
  · intro h
    refine ⟨h [] c calls rfl, ?_⟩
    intro u x v hsplit
    exact h (c :: u) x v (by rw [hsplit, List.cons_append])
  · rintro ⟨hc, h⟩ u x v hsplit
    cases u with
    | nil =>
      obtain ⟨rfl, -⟩ := List.cons.inj hsplit
      exact hc
    | cons y u =>
      obtain ⟨rfl, hrest⟩ := List.cons.inj hsplit
      exact h u x v hrest

theorem unstarted_append_iff {r : Rig} {xs ys : List Call} :
    r.Unstarted (xs ++ ys) ↔ r.Unstarted xs ∧ (r.after xs).Unstarted ys := by
  induction xs generalizing r with
  | nil => exact ⟨fun h => ⟨unstarted_nil r, h⟩, And.right⟩
  | cons x xs ih =>
    rw [List.cons_append, unstarted_cons_iff, unstarted_cons_iff, after_cons, ih, and_assoc]

theorem not_starts_of_asked {r : Rig} (hf : r.flags.ignition = true) (c : Call) :
    ¬ r.Starts c := by
  rw [starts_iff, hf]
  simp

/-- After the calls `since`, which accept no start, `poll` begins a burn. -/
structure Begins (r : Rig) (since : List Call) (poll : Call) : Prop where
  step : poll.deed = .step
  own : r.Unstarted since
  burns : ((r.after since).act poll.action).1.sequencer.burns = r.sequencer.burns + 1
  t0 : ((r.after since).act poll.action).1.sequencer.machine.context.t0 = poll.time
  writes : ((r.after since).report poll).writes = [(Pin.igniter, .high)]

theorem Begins.unstarted {r : Rig} {since : List Call} {poll : Call} (h : r.Begins since poll) :
    r.Unstarted (since ++ [poll]) := by
  refine unstarted_append_iff.mpr ⟨h.own, unstarted_cons_iff.mpr ⟨?_, unstarted_nil _⟩⟩
  rintro ⟨hd, -⟩
  rw [h.step] at hd
  cases hd

theorem Begins.lights {r : Rig} {since : List Call} {poll : Call} (h : r.Begins since poll) :
    (Pin.igniter, .high) ∈ r.writes (since ++ [poll]) := by
  rw [writes_concat, h.writes]
  exact List.mem_append_right _ List.mem_cons_self

theorem Begins.cons {r : Rig} {c poll : Call} {since : List Call}
    (h : (r.act c.action).1.Begins since poll) (hc : ¬ r.Starts c)
    (hb : (r.act c.action).1.sequencer.burns = r.sequencer.burns) :
    r.Begins (c :: since) poll where
  step := h.step
  own := unstarted_cons_iff.mpr ⟨hc, h.own⟩
  burns := by
    rw [after_cons, h.burns, hb]
  t0 := h.t0
  writes := h.writes

/-- A request made outside a burn begins one, at the first poll that finds the
sequencer idle. -/
theorem begins_of_asked {r : Rig} (h : r.sequencer.Tidy) (hf : r.flags.ignition = true)
    (hlit : r.sequencer.state.lit = false) {rest : List Call}
    (hrest : ∀ c ∈ rest, c.deed ≠ .command .stopIgnition)
    (hpolls : r.sequencer.state.pollsLeft < polls rest) :
    ∃ since poll later, rest = since ++ poll :: later ∧
      polls since = r.sequencer.state.pollsLeft ∧ r.Begins since poll := by
  induction rest generalizing r with
  | nil => cases hpolls
  | cons c rest ih =>
    have hstart := not_starts_of_asked hf c
    have hstops : ∀ x ∈ rest, x.deed ≠ .command .stopIgnition := fun x hx =>
      hrest x (List.mem_cons_of_mem c hx)
    rcases c.step_or with ⟨now, rfl⟩ | hc
    · cases hs : r.sequencer.state with
      | idle =>
        obtain ⟨hburns, ht0, hwrites⟩ := h.step_idle hs hf now
        exact ⟨[], ⟨now, .step⟩, rest, rfl, rfl, rfl, unstarted_nil r, hburns, ht0, hwrites⟩
      | ending =>
        obtain ⟨hidle, hburns, hflags⟩ := h.step_ending (f := r.flags) hs now
        have hidle' : (r.act (Call.action ⟨now, .step⟩)).1.sequencer.state = .idle := hidle
        have hf' : (r.act (Call.action ⟨now, .step⟩)).1.flags.ignition = true :=
          (congrArg SafetyFlags.ignition hflags).trans hf
        rw [polls_cons_step, hs] at hpolls
        obtain ⟨since, poll, later, rfl, hsince, hbegins⟩ :=
          ih (act_tidy h ⟨now, .step⟩) hf' (by rw [hidle']; rfl) hstops
            (by rw [hidle']; exact Nat.lt_of_succ_lt_succ hpolls)
        refine ⟨⟨now, .step⟩ :: since, poll, later, rfl, ?_, hbegins.cons hstart hburns⟩
        rw [polls_cons_step, hsince, hidle']
        rfl
      | igniting | mainValveOpen =>
        rw [hs] at hlit
        cases hlit
    · have hseq := act_of_not_step (r := r) hc
      have hflags := ignition_stays_up hf hc (hrest c List.mem_cons_self)
      rw [polls_cons_of_not_step hc] at hpolls
      obtain ⟨since, poll, later, rfl, hsince, hbegins⟩ :=
        ih (act_tidy h c) hflags (by rwa [hseq]) hstops (by rwa [hseq])
      refine ⟨c :: since, poll, later, rfl, ?_, hbegins.cons hstart (by rw [hseq])⟩
      rw [polls_cons_of_not_step hc, hsince, hseq]

/-- While the request is that of the burn under way, no burn begins before the next
start that is accepted. -/
theorem burns_of_unstarted {r : Rig} (h : r.sequencer.Tidy)
    (hf : r.flags.ignition = r.sequencer.state.lit) {calls : List Call}
    (hstops : ∀ c ∈ calls, c.deed ≠ .command .stopIgnition) (hno : r.Unstarted calls) :
    (r.after calls).sequencer.burns = r.sequencer.burns ∧
      (Pin.igniter, .high) ∉ r.writes calls := by
  induction calls generalizing r with
  | nil => exact ⟨rfl, by simp [writes]⟩
  | cons c calls ih =>
    obtain ⟨hc, hno⟩ := unstarted_cons_iff.mp hno
    have hact : (r.act c.action).1.flags.ignition = (r.act c.action).1.sequencer.state.lit ∧
        (r.act c.action).1.sequencer.burns = r.sequencer.burns ∧
        (Pin.igniter, Level.high) ∉ (r.report c).writes := by
      rcases c.step_or with ⟨now, rfl⟩ | hs
      · show ((r.sequencer.step now r.flags).flags r.flags).ignition =
            (r.sequencer.step now r.flags).sequencer.state.lit ∧
          (r.sequencer.step now r.flags).sequencer.burns = _ ∧
          _ ∉ (r.sequencer.step now r.flags).writes
        cases h.turn now r.flags with
        | begins idle asked state t0 burns writes flags => simp [idle, asked] at hf
        | ends lit state burns dark low flags => exact ⟨by rw [flags, state]; rfl, burns, dark⟩
        | keeps lit state asked burns dark flags =>
          exact ⟨by rw [flags, lit, hf], burns, dark⟩
      · refine ⟨?_, by rw [act_of_not_step hs], igniter_dark_of_not_step hs⟩
        rw [act_of_not_step hs, ← hf]
        cases hflag : r.flags.ignition with
        | true => exact ignition_stays_up hflag hs (hstops c List.mem_cons_self)
        | false =>
          have hd : c.deed ≠ .command .startIgnition := fun hd =>
            hc (starts_iff.mpr ⟨hd, hflag⟩)
          exact ignition_stays_down hflag hs hd
    obtain ⟨hflag, hburns, hdark⟩ := hact
    obtain ⟨iburns, idark⟩ := ih (act_tidy h c) hflag
      (fun x hx => hstops x (List.mem_cons_of_mem c hx)) hno
    refine ⟨iburns.trans hburns, ?_⟩
    rw [writes_cons, List.mem_append, not_or]
    exact ⟨hdark, idark⟩

theorem stop_unseen {profile : EngineProfile} {timing : BurnTiming}
    {loops : List SamplingLoop} {calls : List Call}
    (hlit : ((fresh profile timing loops).after calls).sequencer.state.lit = true)
    (hf : ((fresh profile timing loops).after calls).flags.ignition = false) :
    StopUnseen calls := by
  induction calls using List.reverseRecOn with
  | nil => cases hlit
  | append_singleton calls c ih =>
    have ht := (after_sound profile timing loops calls).tidy
    rw [after_concat] at hlit hf
    rcases c.step_or with ⟨now, rfl⟩ | hc
    · have hflag := hf
      change (SafetyFlags.ignition (Stepped.flags _ _)) = false at hflag
      change (Sequencer.state (Stepped.sequencer _)).lit = true at hlit
      -- A step that leaves a burn under way found a request, and leaves it.
      cases ht.turn now ((fresh profile timing loops).after calls).flags with
      | begins idle asked state t0 burns writes flags =>
        rw [flags, asked] at hflag
        cases hflag
      | ends lit state burns dark low flags =>
        rw [state] at hlit
        cases hlit
      | keeps lit state asked burns dark flags =>
        rw [flags, asked (lit.symm.trans hlit)] at hflag
        cases hflag
    · rw [act_of_not_step hc] at hlit
      cases hold : ((fresh profile timing loops).after calls).flags.ignition with
      | false => exact (ih hlit hold).concat hc
      | true =>
        by_cases hstop : c.deed = .command .stopIgnition
        · exact ⟨calls, c, [], rfl, hstop, by simp⟩
        · rw [ignition_stays_up hold hc hstop] at hf
          cases hf

/-- An accepted start that no stop follows begins a burn of its own within two polls
if and only if no burn is under way. A burn can be under way there only because
its stop has not been polled yet, and then no burn begins before another start is
accepted. -/
theorem accepted_start_begins_iff (profile : EngineProfile) (timing : BurnTiming)
    (loops : List SamplingLoop) (calls rest : List Call) (now : Nat)
    (haccepted : ((fresh profile timing loops).after calls).Starts
      ⟨now, .command .startIgnition⟩)
    (hrest : ∀ c ∈ rest, c.deed ≠ .command .stopIgnition) :
    let r := (fresh profile timing loops).after calls
    let started := r.after [⟨now, .command .startIgnition⟩]
    (2 ≤ polls rest →
        ((∃ since poll later, rest = since ++ poll :: later ∧ polls since ≤ 1 ∧
            started.Begins since poll) ↔ r.sequencer.state.lit = false)) ∧
      (r.sequencer.state.lit = true → StopUnseen calls ∧
        ∀ since later, rest = since ++ later → started.Unstarted since →
          (started.after since).sequencer.burns = r.sequencer.burns ∧
            (Pin.igniter, .high) ∉ started.writes since) := by
  intro r started
  have htidy : started.sequencer.Tidy := (after_sound profile timing loops calls).tidy
  have hseq : started.sequencer = r.sequencer := rfl
  have hasked : started.flags.ignition = true := by
    show (Command.handle r.profile .startIgnition r.flags).flags.ignition = true
    rw [Command.handle_flags]
  have hmerged : r.sequencer.state.lit = true → ∀ since later, rest = since ++ later →
      started.Unstarted since → (started.after since).sequencer.burns = r.sequencer.burns ∧
        (Pin.igniter, .high) ∉ started.writes since := by
    intro hlit since later hsplit hno
    have hf : started.flags.ignition = started.sequencer.state.lit := by
      rw [hasked, hseq, hlit]
    exact burns_of_unstarted htidy hf
      (fun c hc => hrest c (hsplit ▸ List.mem_append_left later hc)) hno
  refine ⟨?_, ?_⟩
  · intro htwo
    constructor
    · rintro ⟨since, poll, later, hsplit, -, hbegins⟩
      rw [Bool.eq_false_iff]
      intro hlit
      have hprefix : rest = (since ++ [poll]) ++ later := by
        rw [hsplit, List.append_assoc, List.singleton_append]
      exact (hmerged hlit _ later hprefix hbegins.unstarted).2 hbegins.lights
    · intro hlit
      have hleft : started.sequencer.state.pollsLeft ≤ 1 := by
        rw [hseq]
        cases hs : r.sequencer.state with
        | idle | ending => decide
        | igniting | mainValveOpen => rw [hs] at hlit; cases hlit
      obtain ⟨since, poll, later, hsplit, hsince, hbegins⟩ :=
        begins_of_asked htidy hasked hlit hrest (by omega)
      exact ⟨since, poll, later, hsplit, by omega, hbegins⟩
  · intro hlit
    exact ⟨stop_unseen hlit (starts_iff.mp haccepted).2, hmerged hlit⟩

/-- A start accepted while a stopped burn comes to rest. -/
theorem accepted_start_begins_of_ending :
    let rig := fresh .generic ⟨100, 1000, 2000, 10⟩ []
    let calls : List Call := [⟨0, .command .startIgnition⟩, ⟨5, .step⟩,
      ⟨50, .command .stopIgnition⟩, ⟨60, .step⟩]
    let rest : List Call := [⟨70, .step⟩, ⟨75, .setShutoff true⟩, ⟨80, .step⟩]
    let r := rig.after calls
    let started := r.after [⟨65, .command .startIgnition⟩]
    r.Starts ⟨65, .command .startIgnition⟩ ∧
      (∀ c ∈ rest, c.deed ≠ .command .stopIgnition) ∧ r.sequencer.state = .ending ∧
      ∃ since poll later, rest = since ++ poll :: later ∧ polls since ≤ 1 ∧
        started.Begins since poll := by
  intro rig calls rest r started
  have haccepted : r.Starts ⟨65, .command .startIgnition⟩ := ⟨rfl, rfl⟩
  have hrest : ∀ c ∈ rest, c.deed ≠ .command .stopIgnition := by decide
  obtain ⟨hiff, -⟩ := accepted_start_begins_iff .generic ⟨100, 1000, 2000, 10⟩ [] calls rest 65
    haccepted hrest
  exact ⟨haccepted, hrest, rfl, (hiff (by decide)).mpr rfl⟩

/-- A start accepted between a stop and the next poll. The burn that was stopped
goes on, and three polls later it is still the only one. -/
theorem accepted_start_merges_after_stop :
    let rig := fresh .generic ⟨100, 1000, 2000, 10⟩ []
    let calls : List Call := [⟨0, .command .startIgnition⟩, ⟨5, .step⟩,
      ⟨50, .command .stopIgnition⟩]
    let start : Call := ⟨50, .command .startIgnition⟩
    let rest : List Call := [⟨55, .step⟩, ⟨65, .step⟩, ⟨75, .step⟩]
    let r := rig.after calls
    let started := r.after [start]
    Chronological (calls ++ start :: rest) ∧ r.Starts start ∧
      (∀ c ∈ rest, c.deed ≠ .command .stopIgnition) ∧ polls rest = 3 ∧
      (started.after rest).sequencer.burns = r.sequencer.burns ∧
      (Pin.igniter, .high) ∉ started.writes rest := by
  exact ⟨by decide, ⟨rfl, rfl⟩, by decide, rfl, rfl, by decide⟩

end Rig

end HotFire
