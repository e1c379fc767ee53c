import HotFire.Rig
import HotFire.Proofs.Commands
import HotFire.Proofs.Engine.Step
import HotFire.Proofs.Sampling.Guard
import Mathlib.Data.List.Induction

/-! Interleavings of complete calls, each at a time of one clock, and the record
that they leave of every write. -/

namespace HotFire

inductive Deed where
  | command (c : Command)
  | setShutoff (on : Bool)
  | step
  | pass (loop : Nat) (conversions : List Conversion)
  deriving DecidableEq, Repr

structure Call where
  time : Nat
  deed : Deed
  deriving DecidableEq, Repr

/-- The clock never goes backwards from one call to the next. -/
def Chronological (calls : List Call) : Prop := calls.Pairwise fun a b => a.time ≤ b.time

instance (calls : List Call) : Decidable (Chronological calls) :=
  inferInstanceAs (Decidable (List.Pairwise _ calls))

def Call.action (c : Call) : Action :=
  match c.deed with
  | .command cmd => .command cmd
  | .setShutoff on => .setShutoff on
  | .step => .step c.time
  | .pass loop cs => .pass loop cs

theorem Call.step_or (c : Call) : (∃ now, c = ⟨now, .step⟩) ∨ c.deed ≠ .step := by
  obtain ⟨time, deed⟩ := c
  by_cases hd : deed = .step
  · exact .inl ⟨time, by rw [hd]⟩
  · exact .inr hd

/-- A write as the recorder of the lines keeps it. -/
structure TimedWrite where
  time : Nat
  write : PinWrite
  deriving DecidableEq, Repr

theorem concat_eq_append_cons {α : Type} {xs a b : List α} {x s : α}
    (h : xs ++ [x] = a ++ s :: b) :
    (∃ b', b = b' ++ [x] ∧ xs = a ++ s :: b') ∨ b = [] ∧ s = x ∧ a = xs := by
  rcases List.eq_nil_or_concat b with rfl | ⟨b', y, rfl⟩
  · obtain ⟨rfl, he⟩ := List.append_inj' h rfl
    exact .inr ⟨rfl, (List.singleton_inj.mp he).symm, rfl⟩
  · rw [List.concat_eq_append, ← List.cons_append, ← List.append_assoc] at h
    obtain ⟨rfl, he⟩ := List.append_inj' h rfl
    exact .inl ⟨b', by rw [List.concat_eq_append, List.singleton_inj.mp he], rfl⟩

namespace Rig

def report (r : Rig) (c : Call) : Report := (r.act c.action).2

def after (r : Rig) (calls : List Call) : Rig := (r.run (calls.map Call.action)).1

def reports (r : Rig) (calls : List Call) : List Report := (r.run (calls.map Call.action)).2

def marks (r : Rig) (c : Call) : List TimedWrite := (r.report c).writes.map (⟨c.time, ·⟩)

/-- The writes that the calls make, with their times. -/
def history (r : Rig) (calls : List Call) : List TimedWrite :=
  (calls.zip (r.run (calls.map Call.action)).2).flatMap fun (c, report) =>
    report.writes.map (⟨c.time, ·⟩)

def writes (r : Rig) (calls : List Call) : List PinWrite := (r.history calls).map (·.write)

@[simp] theorem after_nil (r : Rig) : r.after [] = r := rfl

theorem after_cons (r : Rig) (c : Call) (cs : List Call) :
    r.after (c :: cs) = (r.act c.action).1.after cs := rfl

@[simp] theorem history_nil (r : Rig) : r.history [] = [] := rfl

theorem history_cons (r : Rig) (c : Call) (cs : List Call) :
    r.history (c :: cs) = r.marks c ++ (r.act c.action).1.history cs := rfl

theorem after_append (r : Rig) (xs ys : List Call) :
    r.after (xs ++ ys) = (r.after xs).after ys := by
  induction xs generalizing r with
  | nil => rfl
  | cons x xs ih => simpa only [List.cons_append, after_cons] using ih _

theorem history_append (r : Rig) (xs ys : List Call) :
    r.history (xs ++ ys) = r.history xs ++ (r.after xs).history ys := by
  induction xs generalizing r with
  | nil => rfl
  | cons x xs ih =>
    simp only [List.cons_append, history_cons, after_cons, ih, List.append_assoc]

theorem after_concat (r : Rig) (cs : List Call) (c : Call) :
    r.after (cs ++ [c]) = ((r.after cs).act c.action).1 := after_append r cs [c]

theorem after_cons_mid (r : Rig) (before since : List Call) (c : Call) :
    r.after (before ++ c :: since) = (r.after (before ++ [c])).after since := by
  rw [← after_append, List.append_assoc, List.singleton_append]

theorem history_concat (r : Rig) (cs : List Call) (c : Call) :
    r.history (cs ++ [c]) = r.history cs ++ (r.after cs).marks c := by
  rw [history_append, history_cons, history_nil, List.append_nil]

theorem history_cons_mid (r : Rig) (before since : List Call) (c : Call) :
    r.history (before ++ c :: since) =
      r.history before ++ (r.after before).marks c ++ (r.after (before ++ [c])).history since := by
  rw [history_append, history_cons, after_concat, List.append_assoc]

@[simp] theorem reports_nil (r : Rig) : r.reports [] = [] := rfl

theorem reports_cons (r : Rig) (c : Call) (cs : List Call) :
    r.reports (c :: cs) = r.report c :: (r.act c.action).1.reports cs := rfl

theorem reports_concat (r : Rig) (cs : List Call) (c : Call) :
    r.reports (cs ++ [c]) = r.reports cs ++ [(r.after cs).report c] := by
  induction cs generalizing r with
  | nil => rfl
  | cons x cs ih => rw [List.cons_append, reports_cons, reports_cons, ih, List.cons_append, after_cons]

theorem marks_map_write (r : Rig) (c : Call) :
    (r.marks c).map (·.write) = (r.report c).writes := by
  simp [marks, Function.comp_def]

theorem write_mem_of_marks {r : Rig} {c : Call} {e : TimedWrite} (he : e ∈ r.marks c) :
    e.write ∈ (r.report c).writes := by
  rw [← marks_map_write]
  exact List.mem_map.mpr ⟨e, he, rfl⟩

theorem writes_cons (r : Rig) (c : Call) (cs : List Call) :
    r.writes (c :: cs) = (r.report c).writes ++ (r.act c.action).1.writes cs := by
  rw [writes, history_cons, List.map_append, marks_map_write]
  rfl

theorem writes_concat (r : Rig) (cs : List Call) (c : Call) :
    r.writes (cs ++ [c]) = r.writes cs ++ ((r.after cs).report c).writes := by
  rw [writes, history_concat, List.map_append, marks_map_write]
  rfl

theorem writes_eq_flatMap (r : Rig) (calls : List Call) :
    r.writes calls = (r.reports calls).flatMap (·.writes) := by
  induction calls generalizing r with
  | nil => rfl
  | cons c calls ih => rw [writes_cons, reports_cons, List.flatMap_cons, ih]

theorem reports_split {r : Rig} {calls : List Call} {ps qs : List Report} {p : Report}
    (h : r.reports calls = ps ++ p :: qs) :
    ∃ before c since, calls = before ++ c :: since ∧ r.reports before = ps ∧
      (r.after before).report c = p ∧ ((r.after before).act c.action).1.reports since = qs := by
  induction ps generalizing r calls with
  | nil =>
    cases calls with
    | nil => cases h
    | cons c calls =>
      rw [reports_cons, List.nil_append] at h
      obtain ⟨hp, hq⟩ := List.cons.inj h
      exact ⟨[], c, calls, rfl, rfl, hp, hq⟩
  | cons x ps ih =>
    cases calls with
    | nil => cases h
    | cons c calls =>
      rw [reports_cons, List.cons_append] at h
      obtain ⟨rfl, hrest⟩ := List.cons.inj h
      obtain ⟨before, c', since, rfl, hb, hp, hq⟩ := ih hrest
      exact ⟨c :: before, c', since, rfl, by rw [reports_cons, hb], hp, hq⟩

theorem after_keeps {P : Rig → Prop} {r : Rig} (hr : P r)
    (hstep : ∀ r c, P r → P (r.act (Call.action c)).1) (calls : List Call) :
    P (r.after calls) := by
  induction calls generalizing r with
  | nil => exact hr
  | cons c cs ih => exact ih (hstep r c hr)

theorem pass_ignition (r : Rig) (loop : Nat) (cs : List Conversion) :
    (r.pass loop cs).1.flags.ignition = r.flags.ignition := by
  cases hl : r.loops[loop]? <;> simp [pass, hl]

theorem pass_sequencer (r : Rig) (loop : Nat) (cs : List Conversion) :
    (r.pass loop cs).1.sequencer = r.sequencer := by
  cases hl : r.loops[loop]? <;> simp [pass, hl]

theorem pass_profile (r : Rig) (loop : Nat) (cs : List Conversion) :
    (r.pass loop cs).1.profile = r.profile := by
  cases hl : r.loops[loop]? <;> simp [pass, hl]

theorem pass_writes (r : Rig) (loop : Nat) (cs : List Conversion) :
    (r.pass loop cs).2.writes = [] := by
  cases hl : r.loops[loop]? <;> simp [pass, hl]

theorem act_of_not_step {r : Rig} {c : Call} (hc : c.deed ≠ .step) :
    (r.act c.action).1.sequencer = r.sequencer := by
  obtain ⟨time, deed⟩ := c
  cases deed with
  | step => exact absurd rfl hc
  | pass loop cs => exact r.pass_sequencer loop cs
  | command _ | setShutoff _ => rfl

/-- Between the steps only commands write. -/
theorem mem_writes_of_not_step {r : Rig} {c : Call} {w : PinWrite} (hc : c.deed ≠ .step)
    (hw : w ∈ (r.report c).writes) :
    ∃ cmd, c.deed = .command cmd ∧ w ∈ (cmd.handle r.profile r.flags).writes := by
  obtain ⟨time, deed⟩ := c
  cases deed with
  | step => exact absurd rfl hc
  | command cmd => exact ⟨cmd, rfl, hw⟩
  | setShutoff on => cases hw
  | pass loop cs => exact absurd hw (by simp [report, Call.action, act, pass_writes])

theorem igniter_dark_of_not_step {r : Rig} {c : Call} (hc : c.deed ≠ .step) :
    (Pin.igniter, Level.high) ∉ (r.report c).writes := by
  intro hm
  obtain ⟨cmd, -, hcmd⟩ := mem_writes_of_not_step hc hm
  exact absurd (Command.handle_writes_igniter hcmd rfl).2 (by simp)

theorem mainValve_dark_of_not_step {r : Rig} {c : Call} (hc : c.deed ≠ .step)
    (hp : r.profile = .titan → ∀ cmd ∈ Command.mainValvePresets, c.deed ≠ .command cmd) :
    (Pin.mainValve, Level.high) ∉ (r.report c).writes := by
  intro hm
  obtain ⟨cmd, hd, hcmd⟩ := mem_writes_of_not_step hc hm
  rcases Command.handle_writes_mainValve hcmd rfl with ⟨-, hl⟩ | ⟨ht, hpreset⟩
  · exact absurd hl (by simp)
  · exact hp ht cmd hpreset hd

theorem report_state_of_not_step {r : Rig} {c : Call} (hc : c.deed ≠ .step) :
    (r.report c).state = none := by
  obtain ⟨time, deed⟩ := c
  cases deed with
  | step => exact absurd rfl hc
  | command _ | setShutoff _ => rfl
  | pass loop cs => cases hl : r.loops[loop]? <;> simp [report, Call.action, act, pass, hl]

theorem ignition_of_not_command {r : Rig} {c : Call} (hs : c.deed ≠ .step)
    (hc : ∀ cmd, c.deed ≠ .command cmd) :
    (r.act c.action).1.flags.ignition = r.flags.ignition := by
  obtain ⟨time, deed⟩ := c
  cases deed with
  | step => exact absurd rfl hs
  | command cmd => exact absurd rfl (hc cmd)
  | setShutoff on => rfl
  | pass loop cs => exact r.pass_ignition loop cs

theorem ignition_stays_down {r : Rig} {c : Call} (hf : r.flags.ignition = false)
    (hs : c.deed ≠ .step) (hc : c.deed ≠ .command .startIgnition) :
    (r.act c.action).1.flags.ignition = false := by
  by_cases hcmd : ∃ cmd, c.deed = .command cmd
  · obtain ⟨cmd, hd⟩ := hcmd
    have he : (r.act c.action).1.flags = (cmd.handle r.profile r.flags).flags := by
      simp [Call.action, hd, act, command]
    rw [he, Command.handle_flags]
    cases cmd <;> simp_all
  · rw [ignition_of_not_command hs (fun cmd hd => hcmd ⟨cmd, hd⟩), hf]

theorem ignition_stays_up {r : Rig} {c : Call} (hf : r.flags.ignition = true)
    (hs : c.deed ≠ .step) (hc : c.deed ≠ .command .stopIgnition) :
    (r.act c.action).1.flags.ignition = true := by
  by_cases hcmd : ∃ cmd, c.deed = .command cmd
  · obtain ⟨cmd, hd⟩ := hcmd
    have he : (r.act c.action).1.flags = (cmd.handle r.profile r.flags).flags := by
      simp [Call.action, hd, act, command]
    rw [he, Command.handle_flags]
    cases cmd <;> simp_all
  · rw [ignition_of_not_command hs (fun cmd hd => hcmd ⟨cmd, hd⟩), hf]

/-- A start that is accepted. -/
def Starts (r : Rig) (c : Call) : Prop :=
  c.deed = .command .startIgnition ∧ (r.report c).verdict = some .applied

theorem starts_iff {r : Rig} {c : Call} :
    r.Starts c ↔ c.deed = .command .startIgnition ∧ r.flags.ignition = false := by
  refine and_congr_right fun hd => ?_
  have hv : (r.report c).verdict = some (Command.startIgnition.handle r.profile r.flags).verdict := by
    simp [report, Call.action, hd, act, command]
  rw [hv, Option.some.injEq]
  exact Command.handle_start_applied_iff r.profile r.flags

theorem act_tidy {r : Rig} (h : r.sequencer.Tidy) (c : Call) :
    (r.act c.action).1.sequencer.Tidy := by
  rcases c.step_or with ⟨now, rfl⟩ | hc
  · exact h.step now r.flags
  · rwa [act_of_not_step hc]

theorem after_tidy {r : Rig} (h : r.sequencer.Tidy) (calls : List Call) :
    (r.after calls).sequencer.Tidy :=
  after_keeps (P := fun r => r.sequencer.Tidy) h (fun _ c hr => act_tidy hr c) calls

/-- A rig for this engine and these times, between two calls. -/
structure Sound (profile : EngineProfile) (timing : BurnTiming) (r : Rig) : Prop where
  tidy : r.sequencer.Tidy
  profile_eq : r.profile = profile
  burn_profile_eq : r.sequencer.machine.context.profile = profile
  timing_eq : r.sequencer.machine.context.timing = timing

theorem Sound.act {profile : EngineProfile} {timing : BurnTiming} {r : Rig}
    (h : Sound profile timing r) (c : Call) : Sound profile timing (r.act c.action).1 := by
  obtain ⟨ht, hp, hb, hm⟩ := h
  obtain ⟨time, deed⟩ := c
  cases deed with
  | command cmd => exact ⟨ht, hp, hb, hm⟩
  | setShutoff on => exact ⟨ht, hp, hb, hm⟩
  | step =>
    exact ⟨ht.step time r.flags, hp, (Sequencer.step_profile ht time r.flags).trans hb,
      (Sequencer.step_timing ht time r.flags).trans hm⟩
  | pass loop cs =>
    have hs := r.pass_sequencer loop cs
    exact ⟨hs ▸ ht, (r.pass_profile loop cs).trans hp, hs ▸ hb, hs ▸ hm⟩

variable (profile : EngineProfile) (timing : BurnTiming) (loops : List SamplingLoop)

def fresh : Rig := (ofLoops profile timing loops).1

theorem after_sound (calls : List Call) :
    Sound profile timing ((fresh profile timing loops).after calls) :=
  after_keeps ⟨Sequencer.start_tidy profile timing, rfl, rfl, rfl⟩ (fun _ c h => h.act c) calls

variable {profile timing loops}

/-- A line that the end of a burn takes off a level, and that only steps set to it, is
at that level only while a burn holds the main valve open. -/
theorem held_in_hotflow {pin : Pin} {level closed : Level} (hig : pin ≠ Pin.igniter)
    (hne : closed ≠ level) (hend : lastLevel pin profile.endLevels = some closed)
    {past : List PinWrite} (hpast : lastLevel pin past ≠ some level) {calls : List Call}
    (hcalls : ∀ r : Rig, r.profile = profile → ∀ c ∈ calls, c.deed ≠ .step →
      (pin, level) ∉ (r.report c).writes)
    (hheld : lastLevel pin (past ++ (fresh profile timing loops).writes calls) = some level) :
    ((fresh profile timing loops).after calls).sequencer.state = .mainValveOpen := by
  induction calls using List.reverseRecOn with
  | nil => exact absurd (by simpa [writes] using hheld) hpast
  | append_singleton calls c ih =>
    have hs := after_sound profile timing loops calls
    have hwas := ih fun r hr d hd => hcalls r hr d (List.mem_append_left _ hd)
    rw [writes_concat, ← List.append_assoc] at hheld
    rw [after_concat]
    rcases c.step_or with ⟨now, rfl⟩ | hc
    · exact hs.tidy.held_in_hotflow hig hne (by rwa [hs.burn_profile_eq]) hwas hheld
    · have hother := hcalls _ hs.profile_eq c (by simp) hc
      rw [act_of_not_step hc]
      exact hwas (lastLevel_of_append hheld hother)

end Rig

end HotFire
