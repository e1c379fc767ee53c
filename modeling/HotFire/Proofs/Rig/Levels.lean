import HotFire.Proofs.Lines
import HotFire.Proofs.Rig.Calls

/-! The lines of a burn agree with its state. Each burn lights the igniter once and
ends once, and outside a burn neither the igniter nor the main valve is on. -/

namespace HotFire

/-- Whether a burn is under way. -/
def BurnState.lit : BurnState → Bool
  | .igniting | .mainValveOpen => true
  | .idle | .ending => false

@[simp] theorem BurnState.lit_idle : BurnState.idle.lit = false := rfl

@[simp] theorem BurnState.lit_igniting : BurnState.igniting.lit = true := rfl

@[simp] theorem BurnState.lit_mainValveOpen : BurnState.mainValveOpen.lit = true := rfl

@[simp] theorem BurnState.lit_ending : BurnState.ending.lit = false := rfl

theorem BurnState.lit_iff (st : BurnState) :
    st.lit = true ↔ st = .igniting ∨ st = .mainValveOpen := by
  cases st <;> simp [lit]

theorem EngineProfile.igniter_not_mem_openLevels (p : EngineProfile) :
    (Pin.igniter, Level.high) ∉ p.openLevels := by
  cases p with
  | titan => decide
  | generic | luna plan => simp [openLevels, Pin.igniter, Pin.mainValve, Pin.valve1]

theorem EngineProfile.igniter_endLevels (p : EngineProfile) :
    lastLevel Pin.igniter p.endLevels = some .low := by
  cases p <;> rfl

theorem EngineProfile.mainValve_endLevels {p : EngineProfile} (hp : p ≠ .titan) :
    lastLevel Pin.mainValve p.endLevels = some .low := by
  cases p with
  | titan => exact absurd rfl hp
  | generic | luna plan => rfl

namespace Sequencer

/-- How a step stands to the burns: it begins one, ends one, or does neither. -/
inductive Turn (s : Sequencer) (now : Nat) (f : SafetyFlags) (r : Stepped) : Prop where
  | begins (idle : s.state = .idle) (asked : f.ignition = true)
      (state : r.sequencer.state = .igniting) (t0 : r.sequencer.machine.context.t0 = now)
      (burns : r.sequencer.burns = s.burns + 1) (writes : r.writes = [(Pin.igniter, .high)])
      (flags : r.flags f = f)
  | ends (lit : s.state.lit = true) (state : r.sequencer.state = .ending)
      (burns : r.sequencer.burns = s.burns) (dark : (Pin.igniter, Level.high) ∉ r.writes)
      (low : lastLevel Pin.igniter r.writes = some .low) (flags : (r.flags f).ignition = false)
  | keeps (lit : r.sequencer.state.lit = s.state.lit) (state : r.sequencer.state ≠ .ending)
      (asked : s.state.lit = true → f.ignition = true)
      (burns : r.sequencer.burns = s.burns) (dark : (Pin.igniter, Level.high) ∉ r.writes)
      (flags : r.flags f = f)

theorem Tidy.turn {s : Sequencer} (h : s.Tidy) (now : Nat) (f : SafetyFlags) :
    s.Turn now f (s.step now f) := by
  have hm := h.move now f
  have asked_of (hr : (s.inputs now f).abortReason = none) :
      s.state.lit = true → f.ignition = true :=
    fun _ => ((BurnContext.abortReason_eq_none_iff _).mp hr).1
  generalize s.step now f = r at hm ⊢
  cases hm with
  | ignite hs hf => exact .begins hs hf rfl rfl rfl (by simp) (by simp)
  | wait hs hf | settle hs =>
    exact .keeps (by simp [hs]) (by simp) (by simp [hs]) rfl (by simp) (by simp)
  | burn hs hr ht => exact .keeps (by simp [hs]) (by simp) (asked_of hr) rfl (by simp) (by simp)
  | openValves hs hr ht =>
    refine .keeps (by simp [hs]) (by simp) (asked_of hr) rfl ?_ (by simp)
    rw [writing_writes]
    exact s.machine.context.profile.igniter_not_mem_openLevels
  | flow hs hr ht =>
    refine .keeps (by simp [hs]) (by simp) (asked_of hr) rfl ?_ (by simp)
    rw [writing_writes]
    exact (s.inputs now f).high_not_mem_pulse (by decide)
  | finish r hs hr =>
    refine .ends (s.state.lit_iff.mpr hs) rfl rfl ?_ ?_ (by simp)
    · rw [finishing_writes]
      exact (s.inputs now f).high_not_mem_finish (by decide)
    · rw [finishing_writes, lastLevel_append, EngineProfile.igniter_endLevels]
      rfl

end Sequencer

/-- How many of these reports are of a step that ended a burn. -/
def endings (reports : List Report) : Nat := reports.countP (·.state = some .ending)

namespace Rig

theorem act_balance {r : Rig} (h : r.sequencer.Tidy) (c : Call) :
    (r.report c).writes.count (Pin.igniter, .high) + r.sequencer.state.lit.toNat =
        endings [r.report c] + (r.act c.action).1.sequencer.state.lit.toNat ∧
      (r.act c.action).1.sequencer.burns =
        r.sequencer.burns + UInt32.ofNat ((r.report c).writes.count (Pin.igniter, .high)) := by
  rcases c.step_or with ⟨now, rfl⟩ | hc
  · have hstate : (r.report ⟨now, .step⟩).state =
        some (r.sequencer.step now r.flags).sequencer.state := rfl
    show (r.sequencer.step now r.flags).writes.count _ + _ =
        _ + (r.sequencer.step now r.flags).sequencer.state.lit.toNat ∧
      (r.sequencer.step now r.flags).sequencer.burns =
        _ + UInt32.ofNat ((r.sequencer.step now r.flags).writes.count _)
    rw [endings, List.countP_singleton, hstate]
    cases h.turn now r.flags with
    | begins idle asked state t0 burns writes flags =>
      simp [idle, state, burns, writes]
    | ends lit state burns dark low flags =>
      simp [lit, state, burns, List.count_eq_zero.mpr dark]
    | keeps lit state asked burns dark flags =>
      simp [lit, state, burns, List.count_eq_zero.mpr dark]
  · have hdark := List.count_eq_zero.mpr (igniter_dark_of_not_step (r := r) hc)
    rw [act_of_not_step hc, hdark, endings, List.countP_singleton, report_state_of_not_step hc]
    simp

/-- Over any run the burns that begin are those that end and the one still under
way. -/
theorem after_balance {r : Rig} (h : r.sequencer.Tidy) (calls : List Call) :
    (r.writes calls).count (Pin.igniter, .high) + r.sequencer.state.lit.toNat =
        endings (r.reports calls) + (r.after calls).sequencer.state.lit.toNat ∧
      (r.after calls).sequencer.burns =
        r.sequencer.burns + UInt32.ofNat ((r.writes calls).count (Pin.igniter, .high)) := by
  induction calls generalizing r with
  | nil => simp [writes, endings]
  | cons c calls ih =>
    obtain ⟨hbal, hburns⟩ := act_balance h c
    obtain ⟨ibal, iburns⟩ := ih (act_tidy h c)
    have hends : endings (r.report c :: (r.act c.action).1.reports calls) =
        endings [r.report c] + endings ((r.act c.action).1.reports calls) := by
      rw [endings, endings, endings, ← List.countP_append, List.singleton_append]
    rw [after_cons, writes_cons, reports_cons, List.count_append, hends]
    refine ⟨by omega, ?_⟩
    rw [iburns, hburns, UInt32.ofNat_add, UInt32.add_assoc]

theorem act_lights {r : Rig} (h : r.sequencer.Tidy) {c : Call}
    (hw : (Pin.igniter, Level.high) ∈ (r.report c).writes) :
    r.sequencer.state.lit = false ∧ (r.act c.action).1.sequencer.state.lit = true ∧
      (r.report c).writes = [(Pin.igniter, .high)] := by
  rcases c.step_or with ⟨now, rfl⟩ | hc
  · cases h.turn now r.flags with
    | begins idle asked state t0 burns writes flags =>
      have hlit : (r.sequencer.step now r.flags).sequencer.state.lit = true := by
        rw [state, BurnState.lit_igniting]
      exact ⟨by rw [idle, BurnState.lit_idle], hlit, writes⟩
    | ends lit state burns dark low flags => exact absurd hw dark
    | keeps lit state asked burns dark flags => exact absurd hw dark
  · exact absurd hw (igniter_dark_of_not_step hc)

/-- Between two lightings that follow each other one burn ends. -/
theorem endings_between {r : Rig} (h : r.sequencer.Tidy) {calls : List Call}
    {a b d : List Report} {x y : Report} (hsplit : r.reports calls = a ++ x :: b ++ y :: d)
    (hx : (Pin.igniter, Level.high) ∈ x.writes) (hy : (Pin.igniter, Level.high) ∈ y.writes)
    (hb : ∀ p ∈ b, (Pin.igniter, Level.high) ∉ p.writes) : endings b = 1 := by
  rw [List.append_assoc] at hsplit
  obtain ⟨before, first, rest, rfl, -, rfl, hrest⟩ := reports_split hsplit
  obtain ⟨between, second, since, rfl, rfl, rfl, -⟩ := reports_split hrest
  have hnext := act_tidy (after_tidy h before) first
  have hlit := (act_lights (after_tidy h before) hx).2.1
  have hunlit := (act_lights (after_tidy hnext between) hy).1
  obtain ⟨hbal, -⟩ := after_balance hnext between
  have hdark : (((r.after before).act first.action).1.writes between).count
      (Pin.igniter, .high) = 0 := by
    rw [List.count_eq_zero, writes_eq_flatMap, List.mem_flatMap]
    rintro ⟨p, hp, hm⟩
    exact hb p hp hm
  rw [hdark, hlit, hunlit] at hbal
  simpa using hbal.symm

theorem igniter_high_lit {profile : EngineProfile} {timing : BurnTiming}
    {loops : List SamplingLoop} {past : List PinWrite} (hpast : lastLevel Pin.igniter past ≠ some .high)
    (calls : List Call)
    (hhigh : lastLevel Pin.igniter (past ++ (fresh profile timing loops).writes calls) =
      some .high) :
    ((fresh profile timing loops).after calls).sequencer.state.lit = true := by
  induction calls using List.reverseRecOn with
  | nil => exact absurd (by simpa [writes] using hhigh) hpast
  | append_singleton calls c ih =>
    have ht := (after_sound profile timing loops calls).tidy
    rw [writes_concat, ← List.append_assoc] at hhigh
    rw [after_concat]
    rcases c.step_or with ⟨now, rfl⟩ | hc
    · show (Sequencer.step _ now _).sequencer.state.lit = true
      cases ht.turn now ((fresh profile timing loops).after calls).flags with
      | begins idle asked state t0 burns writes flags => rw [state, BurnState.lit_igniting]
      | ends lit state burns dark low flags =>
        rw [lastLevel_append] at hhigh
        exact absurd (hhigh.symm.trans (congrArg (Option.or · _) low)) (by simp)
      | keeps lit state asked burns dark flags =>
        rw [lit]
        exact ih (lastLevel_of_append hhigh dark)
    · rw [act_of_not_step hc]
      exact ih (lastLevel_of_append hhigh (igniter_dark_of_not_step hc))

theorem mainValve_high_open {profile : EngineProfile} {timing : BurnTiming}
    {loops : List SamplingLoop} (hp : profile ≠ .titan) {past : List PinWrite}
    (hpast : lastLevel Pin.mainValve past ≠ some .high) (calls : List Call)
    (hhigh : lastLevel Pin.mainValve (past ++ (fresh profile timing loops).writes calls) =
      some .high) :
    ((fresh profile timing loops).after calls).sequencer.state = .mainValveOpen := by
  refine held_in_hotflow (by decide) (by decide) (EngineProfile.mainValve_endLevels hp) hpast ?_ hhigh
  intro r hr c _ hc
  exact mainValve_dark_of_not_step hc fun ht => absurd (hr.symm.trans ht) hp

/-- The lines agree with the burns. The igniter is on only in a burn, and the main
valve, except on the Titan, only while a burn holds it open. Each burn counted is
one lighting of the igniter, and between two lightings one burn ends. -/
theorem lines_agree_with_burns (profile : EngineProfile) (timing : BurnTiming)
    (loops : List SamplingLoop) (past : List PinWrite) (calls : List Call)
    (higniter : lastLevel Pin.igniter past ≠ some .high)
    (hvalve : lastLevel Pin.mainValve past ≠ some .high) :
    let rig := fresh profile timing loops
    let s := (rig.after calls).sequencer
    let record := past ++ rig.writes calls
    (lastLevel Pin.igniter record = some .high →
        s.state = .igniting ∨ s.state = .mainValveOpen) ∧
      (profile ≠ .titan → lastLevel Pin.mainValve record = some .high →
        s.state = .mainValveOpen) ∧
      s.burns.toNat = (rig.writes calls).count (Pin.igniter, .high) % UInt32.size ∧
      (∀ p ∈ rig.reports calls, p.writes.count (Pin.igniter, .high) ≤ 1) ∧
      ∀ a x b y d, rig.reports calls = a ++ x :: b ++ y :: d →
        (Pin.igniter, .high) ∈ x.writes → (Pin.igniter, .high) ∈ y.writes →
        (∀ p ∈ b, (Pin.igniter, .high) ∉ p.writes) →
        b.countP (fun p => p.state = some .ending) = 1 := by
  intro rig s record
  have htidy : rig.sequencer.Tidy := Sequencer.start_tidy profile timing
  refine ⟨?_, ?_, ?_, ?_, ?_⟩
  · intro hhigh
    exact s.state.lit_iff.mp (igniter_high_lit higniter calls hhigh)
  · intro hp hhigh
    exact mainValve_high_open hp hvalve calls hhigh
  · obtain ⟨-, hburns⟩ := after_balance htidy calls
    have hzero : rig.sequencer.burns = 0 := rfl
    rw [hzero, UInt32.zero_add] at hburns
    show (rig.after calls).sequencer.burns.toNat = _
    rw [hburns, UInt32.toNat_ofNat']
  · intro p hp
    obtain ⟨ps, qs, hsplit⟩ := List.append_of_mem hp
    obtain ⟨before, c, since, -, -, rfl, -⟩ := reports_split hsplit
    by_cases hm : (Pin.igniter, Level.high) ∈ ((rig.after before).report c).writes
    · rw [(act_lights (after_tidy htidy before) hm).2.2]
      decide
    · rw [List.count_eq_zero.mpr hm]
      exact Nat.zero_le 1
  · intro a x b y d hsplit hx hy hb
    exact endings_between htidy hsplit hx hy hb

/-- Two burns on lines that were low. The first is stopped in hotflow, the second
still waits for its preignite. -/
theorem lines_agree_with_burns_of_two_burns :
    let rig := fresh .generic ⟨100, 1000, 2000, 10⟩ []
    let past : List PinWrite := [(Pin.igniter, .low), (Pin.mainValve, .low)]
    let first : List Call := [⟨0, .command .startIgnition⟩]
    let between : List Call := [⟨105, .step⟩, ⟨200, .command .stopIgnition⟩, ⟨205, .step⟩,
      ⟨215, .step⟩, ⟨220, .command .startIgnition⟩]
    let calls := first ++ ⟨5, .step⟩ :: between ++ [⟨225, .step⟩]
    let s := (rig.after calls).sequencer
    lastLevel Pin.igniter past ≠ some .high ∧ lastLevel Pin.mainValve past ≠ some .high ∧
      lastLevel Pin.igniter (past ++ rig.writes calls) = some .high ∧
      (s.state = .igniting ∨ s.state = .mainValveOpen) ∧ s.burns.toNat = 2 ∧
      ((rig.after (first ++ [⟨5, .step⟩])).reports between).countP
        (fun p => p.state = some .ending) = 1 := by
  intro rig past first between calls s
  have higniter : lastLevel Pin.igniter past ≠ some .high := by decide
  have hvalve : lastLevel Pin.mainValve past ≠ some .high := by decide
  obtain ⟨hlit, -, hburns, -, hends⟩ :=
    lines_agree_with_burns .generic ⟨100, 1000, 2000, 10⟩ [] past calls higniter hvalve
  have hcount : (rig.writes calls).count (Pin.igniter, .high) = 2 := by decide
  have hhigh : lastLevel Pin.igniter (past ++ rig.writes calls) = some .high := by decide
  have hdark : ∀ p ∈ (rig.after (first ++ [⟨5, .step⟩])).reports between,
      (Pin.igniter, Level.high) ∉ p.writes := by decide
  rw [hcount] at hburns
  exact ⟨higniter, hvalve, hhigh, hlit hhigh, hburns,
    hends (rig.reports first) _ _ _ [] rfl (by decide) (by decide) hdark⟩

end Rig
end HotFire
