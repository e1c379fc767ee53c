import HotFire.Proofs.Lines
import HotFire.Proofs.Rig.Calls

/-! A stop is final until the next start: the lines it closed stay closed, no burn
begins, and two polls later the sequencer is idle. -/

namespace HotFire

/-- How many polls a withdrawn burn is away from rest. -/
def BurnState.pollsLeft : BurnState → Nat
  | .idle => 0
  | .ending => 1
  | .igniting | .mainValveOpen => 2

theorem Sequencer.Tidy.step_withdrawn {s : Sequencer} (h : s.Tidy) {f : SafetyFlags}
    (hf : f.ignition = false) (now : Nat) :
    (s.step now f).sequencer.state.pollsLeft = s.state.pollsLeft - 1 ∧
      (s.step now f).sequencer.burns = s.burns ∧
      ((s.step now f).flags f).ignition = false ∧
      (Pin.igniter, .high) ∉ (s.step now f).writes ∧
      (Pin.mainValve, .high) ∉ (s.step now f).writes := by
  have hm := h.move now f
  have hno : (s.inputs now f).abortReason ≠ none := by simp [BurnContext.abortReason, hf]
  generalize s.step now f = r at hm ⊢
  cases hm with
  | wait hs _ => exact ⟨by simp [hs, BurnState.pollsLeft], rfl, by simpa, by simp, by simp⟩
  | ignite hs hon => rw [hf] at hon; cases hon
  | burn hs hr ht => exact absurd hr hno
  | openValves hs hr ht => exact absurd hr hno
  | flow hs hr ht => exact absurd hr hno
  | settle hs => exact ⟨by simp [hs, BurnState.pollsLeft], rfl, by simpa, by simp, by simp⟩
  | finish r hs hr =>
    refine ⟨?_, rfl, by simp, ?_, ?_⟩
    · rcases hs with hs | hs <;> simp [hs, BurnState.pollsLeft]
    · rw [finishing_writes]
      exact (s.inputs now f).high_not_mem_finish (by decide)
    · rw [finishing_writes]
      exact (s.inputs now f).high_not_mem_finish (by decide)

def polls (calls : List Call) : Nat := calls.countP (·.deed = .step)

theorem polls_cons_step (now : Nat) (calls : List Call) :
    polls (⟨now, .step⟩ :: calls) = polls calls + 1 :=
  List.countP_cons_of_pos (by simp)

theorem polls_cons_of_not_step {c : Call} (hc : c.deed ≠ .step) (calls : List Call) :
    polls (c :: calls) = polls calls :=
  List.countP_cons_of_neg (by simpa using hc)

theorem polls_cons (c : Call) (calls : List Call) :
    polls (c :: calls) = polls [c] + polls calls := by
  rw [polls, polls, polls, ← List.countP_append, List.singleton_append]

namespace Rig

theorem act_withdrawn {profile : EngineProfile} {timing : BurnTiming} {r : Rig}
    (h : Sound profile timing r) (hf : r.flags.ignition = false) {c : Call}
    (hc : c.deed ≠ .command .startIgnition) :
    (r.act c.action).1.flags.ignition = false ∧
      (r.act c.action).1.sequencer.burns = r.sequencer.burns ∧
      (r.act c.action).1.sequencer.state.pollsLeft =
        r.sequencer.state.pollsLeft - polls [c] ∧
      (Pin.igniter, .high) ∉ (r.report c).writes ∧
      ((profile = .titan → ∀ cmd ∈ Command.mainValvePresets, c.deed ≠ .command cmd) →
        (Pin.mainValve, .high) ∉ (r.report c).writes) := by
  rcases c.step_or with ⟨now, rfl⟩ | hs
  · obtain ⟨hp, hb, hi, hig, hmv⟩ := h.tidy.step_withdrawn hf now
    exact ⟨hi, hb, hp, hig, fun _ => hmv⟩
  · refine ⟨ignition_stays_down hf hs hc, by rw [act_of_not_step hs], ?_,
      igniter_dark_of_not_step hs, fun hpreset => mainValve_dark_of_not_step hs ?_⟩
    · rw [act_of_not_step hs, polls_cons_of_not_step hs]
      rfl
    · rwa [h.profile_eq]

theorem after_withdrawn {profile : EngineProfile} {timing : BurnTiming} {r : Rig}
    (h : Sound profile timing r) (hf : r.flags.ignition = false) {rest : List Call}
    (hrest : ∀ c ∈ rest, c.deed ≠ .command .startIgnition) :
    (r.after rest).flags.ignition = false ∧
      (r.after rest).sequencer.burns = r.sequencer.burns ∧
      (r.after rest).sequencer.state.pollsLeft = r.sequencer.state.pollsLeft - polls rest ∧
      (Pin.igniter, .high) ∉ r.writes rest ∧
      ((profile = .titan → ∀ c ∈ rest, ∀ cmd ∈ Command.mainValvePresets,
          c.deed ≠ .command cmd) → (Pin.mainValve, .high) ∉ r.writes rest) := by
  induction rest generalizing r with
  | nil => exact ⟨hf, rfl, rfl, by simp [writes], by simp [writes]⟩
  | cons c rest ih =>
    obtain ⟨hf', hb, hp, hig, hmv⟩ := act_withdrawn h hf (hrest c (by simp))
    obtain ⟨if', ib, ip, iig, imv⟩ := ih (h.act c) hf' (fun x hx => hrest x (by simp [hx]))
    refine ⟨if', ib.trans hb, ?_, ?_, ?_⟩
    · rw [after_cons, ip, hp, polls_cons c rest, Nat.sub_sub]
    · rw [writes_cons, List.mem_append, not_or]
      exact ⟨hig, iig⟩
    · intro hpreset
      rw [writes_cons, List.mem_append, not_or]
      exact ⟨hmv fun ht => hpreset ht c (by simp),
        imv fun ht x hx => hpreset ht x (by simp [hx])⟩

/-- A stop is final until the next start. Through all calls after it the igniter
is low, and the main valve too, on the Titan until a preset moves it; the request
stays withdrawn, no burn begins, and from the second poll on the sequencer is
idle. -/
theorem stop_is_final (profile : EngineProfile) (timing : BurnTiming)
    (loops : List SamplingLoop) (calls rest : List Call) (now : Nat)
    (hrest : ∀ c ∈ rest, c.deed ≠ .command .startIgnition) :
    let r := (fresh profile timing loops).after calls
    let stopped := r.after [⟨now, .command .stopIgnition⟩]
    let past := (fresh profile timing loops).writes (calls ++ [⟨now, .command .stopIgnition⟩])
    (∀ ws, ws <+: stopped.writes rest → lastLevel Pin.igniter (past ++ ws) = some .low) ∧
      ((profile = .titan → ∀ c ∈ rest, ∀ cmd ∈ Command.mainValvePresets,
          c.deed ≠ .command cmd) →
        ∀ ws, ws <+: stopped.writes rest → lastLevel Pin.mainValve (past ++ ws) = some .low) ∧
      (stopped.after rest).flags.ignition = false ∧
      (stopped.after rest).sequencer.burns = r.sequencer.burns ∧
      (2 ≤ polls rest → (stopped.after rest).sequencer.state = .idle) := by
  intro r stopped past
  have hsound : Sound profile timing stopped := (after_sound profile timing loops calls).act
    ⟨now, .command .stopIgnition⟩
  have hf : stopped.flags.ignition = false := by
    show (Command.handle r.profile .stopIgnition r.flags).flags.ignition = false
    rw [Command.handle_flags]
  have hpast : past = (fresh profile timing loops).writes calls ++
      [(Pin.igniter, .low), (Pin.mainValve, .low)] := by
    show List.map _ _ = _
    rw [history_concat, List.map_append, marks, List.map_map]
    exact congrArg (_ ++ ·) ((List.map_id _).trans (Command.handle_stop_writes r.profile r.flags))
  obtain ⟨hi, hb, hp, hig, hmv⟩ := after_withdrawn hsound hf hrest
  refine ⟨?_, ?_, hi, hb, ?_⟩
  · intro ws hws
    apply lastLevel_low_append
    · rw [hpast]
      simp [lastLevel, Pin.igniter, Pin.mainValve, Pin.valve1]
    · exact fun hm => hig (hws.subset hm)
  · intro hpreset ws hws
    apply lastLevel_low_append
    · rw [hpast]
      simp [lastLevel]
    · exact fun hm => hmv hpreset (hws.subset hm)
  · intro htwo
    have hle : stopped.sequencer.state.pollsLeft ≤ 2 := by
      cases stopped.sequencer.state <;> decide
    have hzero : (stopped.after rest).sequencer.state.pollsLeft = 0 := by omega
    cases hst : (stopped.after rest).sequencer.state <;> rw [hst] at hzero <;>
      first | rfl | cases hzero

/-- A stop in hotflow, with a pulse train waiting and a pressure alarm after it. -/
theorem stop_is_final_of_hotflow :
    let rig := fresh (.luna (some ⟨5, 5, [10]⟩)) ⟨100, 1000, 2000, 10⟩ []
    let calls : List Call := [⟨0, .command .startIgnition⟩, ⟨5, .step⟩, ⟨105, .step⟩]
    let rest : List Call := [⟨120, .setShutoff true⟩, ⟨125, .step⟩, ⟨126, .command .leakCheck⟩,
      ⟨135, .step⟩]
    let r := rig.after calls
    let stopped := r.after [⟨110, .command .stopIgnition⟩]
    let past := rig.writes (calls ++ [⟨110, .command .stopIgnition⟩])
    r.sequencer.state = .mainValveOpen ∧
      (∀ c ∈ rest, c.deed ≠ .command .startIgnition) ∧
      (∀ ws, ws <+: stopped.writes rest → lastLevel Pin.igniter (past ++ ws) = some .low) ∧
      (∀ ws, ws <+: stopped.writes rest → lastLevel Pin.mainValve (past ++ ws) = some .low) ∧
      (stopped.after rest).flags.ignition = false ∧
      (stopped.after rest).sequencer.burns = r.sequencer.burns ∧
      (stopped.after rest).sequencer.state = .idle := by
  intro rig calls rest r stopped past
  have hrest : ∀ c ∈ rest, c.deed ≠ .command .startIgnition := by decide
  obtain ⟨hi, hm, hf, hb, hs⟩ :=
    stop_is_final (.luna (some ⟨5, 5, [10]⟩)) ⟨100, 1000, 2000, 10⟩ [] calls rest 110 hrest
  exact ⟨rfl, hrest, hi, hm (fun ht => nomatch ht), hf, hb, hs (by decide)⟩

end Rig

end HotFire
