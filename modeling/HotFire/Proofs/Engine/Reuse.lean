import HotFire.Proofs.Engine.Schedule
import Mathlib.Data.List.Forall2

/-! A sequencer that is idle again is as good as a new one. Two sequencers whose
burns began `d` apart and are polled `d` apart stay alike, since a burn looks at the
clock only for its age and for the deadlines of its pulses. -/

namespace HotFire

/-- `t'` is `d` after `t`, or before it if `d` is negative. -/
def Apart (d : Int) (t t' : Nat) : Prop := (t' : Int) = t + d

structure Poll.Apart (d : Int) (p q : Poll) : Prop where
  now : HotFire.Apart d p.now q.now
  flags : q.flags = p.flags

structure PulseTrain.Apart (d : Int) (t t' : PulseTrain) : Prop where
  plan : t'.plan = t.plan
  phase : t'.phase = t.phase
  deadline : HotFire.Apart d t.deadline t'.deadline

theorem Apart.sub {d : Int} {a b a' b' : Nat} (ha : Apart d a a') (hb : Apart d b b') :
    a' - b' = a - b := by
  simp only [Apart] at ha hb
  omega

theorem Apart.add {d : Int} {a a' : Nat} (h : Apart d a a') (n : Nat) :
    Apart d (a + n) (a' + n) := by
  simp only [Apart] at h ⊢
  omega

theorem Apart.lt_iff {d : Int} {a b a' b' : Nat} (ha : Apart d a a') (hb : Apart d b b') :
    a' < b' ↔ a < b := by
  simp only [Apart] at ha hb
  omega

namespace PulseTrain

theorem start?_apart {d : Int} {now now' : Nat} (h : HotFire.Apart d now now')
    (plan : GitvcPlan) :
    Option.Rel (PulseTrain.Apart d) (start? plan now) (start? plan now') := by
  by_cases he : plan.pulses.isEmpty = true
  · simp only [start?, he, if_true]
    exact .none
  · simp only [start?, he, if_false, Bool.false_eq_true]
    exact .some ⟨rfl, rfl, h.add plan.wait⟩

theorem Apart.poll {d : Int} {t t' : PulseTrain} (h : t.Apart d t') {now now' : Nat}
    (hn : HotFire.Apart d now now') :
    (t.poll now).1.Apart d (t'.poll now').1 ∧ (t'.poll now').2 = (t.poll now).2 ∧
      t'.pollNotices now' = t.pollNotices now := by
  have hdue := hn.lt_iff h.deadline
  obtain ⟨plan, phase, deadline⟩ := t
  obtain ⟨plan', phase', deadline'⟩ := t'
  obtain ⟨rfl, rfl, hd⟩ := h
  by_cases hl : now < deadline
  · have hl' := hdue.mpr hl
    simp only [PulseTrain.poll, pollNotices, hl, hl', if_true]
    exact ⟨⟨rfl, rfl, hd⟩, trivial, trivial⟩
  · have hl' := mt hdue.mp hl
    simp only [PulseTrain.poll, pollNotices, hl, hl', if_false]
    cases phase' with
    | waiting => exact ⟨⟨rfl, rfl, hd.add _⟩, rfl, rfl⟩
    | off next => exact ⟨⟨rfl, rfl, hd.add _⟩, rfl, rfl⟩
    | done => exact ⟨⟨rfl, rfl, hd⟩, rfl, rfl⟩
    | on pulse =>
      refine ⟨?_, rfl, rfl⟩
      by_cases hmore : pulse + 1 < plan'.pulses.length
      · simp only [closePulse, hmore, if_true]
        exact ⟨rfl, rfl, hd.add _⟩
      · simp only [closePulse, hmore, if_false]
        exact ⟨rfl, rfl, hd⟩

end PulseTrain

namespace BurnContext

structure Apart (d : Int) (c c' : BurnContext) : Prop where
  now : HotFire.Apart d c.now c'.now
  t0 : HotFire.Apart d c.t0 c'.t0
  train : Option.Rel (PulseTrain.Apart d) c.train c'.train
  ignition : c'.ignition = c.ignition
  shutoff : c'.shutoff = c.shutoff
  profile : c'.profile = c.profile
  timing : c'.timing = c.timing

variable {d : Int} {c c' : BurnContext}

theorem Apart.elapsed (h : c.Apart d c') : c'.elapsed = c.elapsed := h.now.sub h.t0

theorem Apart.abortReason (h : c.Apart d c') : c'.abortReason = c.abortReason := by
  simp only [BurnContext.abortReason, h.ignition, h.shutoff, h.timing, h.elapsed]

theorem Apart.endReason? (h : c.Apart d c') (st : BurnState) :
    c'.endReason? st = c.endReason? st := by
  cases st <;> simp only [BurnContext.endReason?, h.abortReason, h.timing, h.elapsed]

theorem Apart.closing (h : c.Apart d c') : c'.closing = c.closing := by
  have ht := h.train
  simp only [BurnContext.closing]
  generalize c.train = t at ht ⊢
  generalize c'.train = t' at ht ⊢
  cases ht <;> rfl

theorem Apart.opening? (h : c.Apart d c') :
    Option.Rel (PulseTrain.Apart d) c.opening? c'.opening? := by
  simp only [BurnContext.opening?, h.profile]
  cases c.profile.gitvc? with
  | none => exact .none
  | some plan => exact PulseTrain.start?_apart h.now plan

theorem Apart.openingNotices (h : c.Apart d c') : c'.openingNotices = c.openingNotices := by
  have ho := h.opening?
  simp only [BurnContext.openingNotices, h.profile, h.elapsed]
  generalize c.opening? = o at ho ⊢
  generalize c'.opening? = o' at ho ⊢
  cases ho with
  | none => rfl
  | some ht => simp [ht.plan]

theorem Apart.pulse (h : c.Apart d c') :
    Option.Rel (PulseTrain.Apart d) c.pulse.1 c'.pulse.1 ∧ c'.pulse.2 = c.pulse.2 ∧
      c'.pulseNotices = c.pulseNotices := by
  have ht := h.train
  simp only [BurnContext.pulse, BurnContext.pulseNotices]
  generalize c.train = t at ht ⊢
  generalize c'.train = t' at ht ⊢
  cases ht with
  | none => exact ⟨.none, rfl, rfl⟩
  | some ht =>
    obtain ⟨hnext, hedge, hnotices⟩ := ht.poll h.now
    exact ⟨.some hnext, hedge, hnotices⟩

end BurnContext

namespace Sequencer

variable {s : Sequencer} {now : Nat} {f : SafetyFlags}

theorem Move.endReason?_eq_none {r : Stepped} (h : s.Move now f r)
    (hne : r.sequencer.state ≠ .ending) : (s.inputs now f).endReason? s.state = none := by
  rw [BurnContext.endReason?_eq_none_iff]
  cases h with
  | flow hs hr ht => exact ⟨fun _ => hr, fun _ => ht⟩
  | finish => exact absurd rfl hne
  | _ => simp_all

theorem Move.unique {r r' : Stepped} (h : s.Move now f r) (h' : s.Move now f r') : r = r' := by
  have hnone := h.endReason?_eq_none
  have hnone' := h'.endReason?_eq_none
  cases h with
  | finish o hs hr =>
    cases h' with
    | finish o' hs' hr' =>
      obtain rfl := Option.some.inj (hr.symm.trans hr')
      rfl
    | _ => cases hr.symm.trans (hnone' (by simp))
  | burn hs hr ht | openValves hs hr ht | flow hs hr ht =>
    cases h' with
    | finish o' hs' hr' => cases hr'.symm.trans (hnone (by simp))
    | burn hs' hr' ht' | openValves hs' hr' ht' | flow hs' hr' ht' =>
      first
        | rfl
        | omega
        | cases hs.symm.trans hs'
    | wait hs' _ | ignite hs' _ | settle hs' => cases hs.symm.trans hs'
  | wait hs _ | ignite hs _ | settle hs => cases h' <;> simp_all

/-- What a step shows: the state it reaches, what it does, in order, what it tells
the log, and how the burn ended if it ended one. -/
structure Showing where
  state : BurnState
  effects : List StepEffect
  notices : List Notice
  outcome : Option BurnOutcome

def showing (r : Stepped) : Showing where
  state := r.sequencer.state
  effects := r.effects
  notices := r.notices
  outcome := if r.sequencer.state = .ending then r.sequencer.lastOutcome else none

def after (s : Sequencer) : List Poll → Sequencer
  | [] => s
  | p :: ps => (s.step p.now p.flags).sequencer.after ps

def trace (s : Sequencer) : List Poll → List Showing
  | [] => []
  | p :: ps => showing (s.step p.now p.flags) :: (s.step p.now p.flags).sequencer.trace ps

/-- Alike but for a burn's times, which are `d` apart. -/
structure Follows (d : Int) (s s' : Sequencer) : Prop where
  tidy : s.Tidy
  tidy' : s'.Tidy
  state : s'.state = s.state
  profile : s'.machine.context.profile = s.machine.context.profile
  timing : s'.machine.context.timing = s.machine.context.timing
  train : Option.Rel (PulseTrain.Apart d) s.machine.context.train s'.machine.context.train
  t0 : s.state = .igniting ∨ s.state = .mainValveOpen →
    Apart d s.machine.context.t0 s'.machine.context.t0

theorem Follows.inputs {d : Int} {s s' : Sequencer} (h : s.Follows d s')
    (hlit : s.state = .igniting ∨ s.state = .mainValveOpen) {p q : Poll} (hq : p.Apart d q) :
    (s.inputs p.now p.flags).Apart d (s'.inputs q.now q.flags) where
  now := hq.now
  t0 := h.t0 hlit
  train := h.train
  ignition := congrArg SafetyFlags.ignition hq.flags
  shutoff := congrArg SafetyFlags.shutoff hq.flags
  profile := h.profile
  timing := h.timing

/-- Two steps that show the same and lead to a state, a train and a lighting alike. -/
structure Agrees (d : Int) (r r' : Stepped) : Prop where
  showing : showing r' = showing r
  train : Option.Rel (PulseTrain.Apart d) r.sequencer.machine.context.train
    r'.sequencer.machine.context.train
  t0 : r.sequencer.state = .igniting ∨ r.sequencer.state = .mainValveOpen →
    Apart d r.sequencer.machine.context.t0 r'.sequencer.machine.context.t0

theorem Follows.agrees {d : Int} {s s' : Sequencer} (h : s.Follows d s') {p q : Poll}
    (hq : p.Apart d q) : Agrees d (s.step p.now p.flags) (s'.step q.now q.flags) := by
  have hmove := h.tidy.move p.now p.flags
  have hmove' := h.tidy'.move q.now q.flags
  generalize s.step p.now p.flags = r at hmove ⊢
  generalize s'.step q.now q.flags = r' at hmove' ⊢
  cases hmove with
  | wait hs hf =>
    obtain rfl := hmove'.unique (.wait (h.state.trans hs) (hq.flags ▸ hf))
    exact ⟨rfl, h.train, by simp⟩
  | ignite hs hf =>
    obtain rfl := hmove'.unique (.ignite (h.state.trans hs) (hq.flags ▸ hf))
    refine ⟨?_, h.train, fun _ => hq.now⟩
    rw [h.timing]
    rfl
  | burn hs hr ht =>
    have hc := h.inputs (.inl hs) hq
    obtain rfl := hmove'.unique (.burn (h.state.trans hs) (hc.abortReason.trans hr)
      (by rwa [hc.elapsed, h.timing]))
    exact ⟨rfl, h.train, fun _ => hc.t0⟩
  | openValves hs hr ht =>
    have hc := h.inputs (.inl hs) hq
    obtain rfl := hmove'.unique (.openValves (h.state.trans hs) (hc.abortReason.trans hr)
      (by rwa [hc.elapsed, h.timing]))
    refine ⟨?_, hc.opening?, fun _ => hc.t0⟩
    rw [h.profile, hc.openingNotices]
    rfl
  | flow hs hr ht =>
    have hc := h.inputs (.inr hs) hq
    obtain rfl := hmove'.unique (.flow (h.state.trans hs) (hc.abortReason.trans hr)
      (by rwa [hc.elapsed, h.timing]))
    obtain ⟨htrain, hedge, hnotices⟩ := hc.pulse
    refine ⟨?_, htrain, fun _ => hc.t0⟩
    rw [hedge, hnotices]
    rfl
  | finish o hs hr =>
    have hc := h.inputs hs hq
    have hr' : (s'.inputs q.now q.flags).endReason? s'.state = some o := by
      rw [h.state, hc.endReason?, hr]
    obtain rfl := hmove'.unique (.finish o (h.state ▸ hs) hr')
    refine ⟨?_, .none, by simp⟩
    rw [hc.closing, h.profile, h.state, hc.elapsed]
    rfl
  | settle hs =>
    obtain rfl := hmove'.unique (.settle (h.state.trans hs))
    exact ⟨rfl, h.train, by simp⟩

theorem Follows.step {d : Int} {s s' : Sequencer} (h : s.Follows d s') {p q : Poll}
    (hq : p.Apart d q) :
    (s.step p.now p.flags).sequencer.Follows d (s'.step q.now q.flags).sequencer where
  tidy := h.tidy.step _ _
  tidy' := h.tidy'.step _ _
  state := congrArg Showing.state (h.agrees hq).showing
  profile := by rw [step_profile h.tidy', step_profile h.tidy, h.profile]
  timing := by rw [step_timing h.tidy', step_timing h.tidy, h.timing]
  train := (h.agrees hq).train
  t0 := (h.agrees hq).t0

theorem Follows.trace_eq {d : Int} {s s' : Sequencer} (h : s.Follows d s') {ps qs : List Poll}
    (hq : List.Forall₂ (Poll.Apart d) ps qs) : s'.trace qs = s.trace ps := by
  induction hq generalizing s s' with
  | nil => rfl
  | cons hp _ ih => rw [trace, trace, (h.agrees hp).showing, ih (h.step hp)]

structure Serves (profile : EngineProfile) (timing : BurnTiming) (s : Sequencer) : Prop where
  tidy : s.Tidy
  profile : s.machine.context.profile = profile
  timing : s.machine.context.timing = timing

theorem Serves.after {profile : EngineProfile} {timing : BurnTiming} {s : Sequencer}
    (h : s.Serves profile timing) (ps : List Poll) : (s.after ps).Serves profile timing := by
  induction ps generalizing s with
  | nil => exact h
  | cons p ps ih =>
    exact ih ⟨h.tidy.step _ _, (step_profile h.tidy _ _).trans h.profile,
      (step_timing h.tidy _ _).trans h.timing⟩

theorem start_serves (profile : EngineProfile) (timing : BurnTiming) :
    (start profile timing).1.Serves profile timing :=
  ⟨start_tidy profile timing, rfl, rfl⟩

/-- Whatever the burns before, an idle sequencer goes on as a new one would that is
polled `d` later: the same states, writes and ends of the request in the same
order, the same notices and the same outcome of each burn. -/
theorem idle_goes_on_as_new (profile : EngineProfile) (timing : BurnTiming) (d : Int)
    (past future shifted : List Poll)
    (hidle : ((start profile timing).1.after past).state = .idle)
    (hshift : List.Forall₂ (Poll.Apart d) future shifted) :
    (start profile timing).1.trace shifted =
      ((start profile timing).1.after past).trace future := by
  have hold := (start_serves profile timing).after past
  have hnew := start_serves profile timing
  have hfollows : ((start profile timing).1.after past).Follows d (start profile timing).1 := {
    tidy := hold.tidy
    tidy' := hnew.tidy
    state := hidle.symm
    profile := hnew.profile.trans hold.profile.symm
    timing := hnew.timing.trans hold.timing.symm
    train := by
      rw [hold.tidy.train (by simp [hidle])]
      exact .none
    t0 := by simp [hidle] }
  exact hfollows.trace_eq hshift

/-- A burn with a pulse, after one that was aborted while its valve pulsed. -/
theorem idle_goes_on_as_new_of_aborted :
    let profile := EngineProfile.luna (some ⟨5, 5, [10]⟩)
    let timing : BurnTiming := ⟨20, 50, 100, 10⟩
    let on : SafetyFlags := ⟨true, false⟩
    let off : SafetyFlags := ⟨false, false⟩
    let past : List Poll := [⟨0, on⟩, ⟨20, on⟩, ⟨30, on⟩, ⟨35, off⟩, ⟨40, off⟩]
    let future : List Poll := [⟨103, on⟩, ⟨125, on⟩, ⟨130, on⟩, ⟨140, on⟩, ⟨160, on⟩, ⟨170, off⟩]
    let shifted : List Poll := [⟨3, on⟩, ⟨25, on⟩, ⟨30, on⟩, ⟨40, on⟩, ⟨60, on⟩, ⟨70, off⟩]
    let old := (start profile timing).1.after past
    old.state = .idle ∧ List.Forall₂ (Poll.Apart (-100)) future shifted ∧
      (start profile timing).1.trace shifted = old.trace future ∧
      (old.trace future).map (·.state) =
        [.igniting, .mainValveOpen, .mainValveOpen, .mainValveOpen, .ending, .idle] := by
  intro profile timing on off past future shifted old
  have hidle : old.state = .idle := rfl
  have hshift : List.Forall₂ (Poll.Apart (-100)) future shifted :=
    .cons ⟨rfl, rfl⟩ <| .cons ⟨rfl, rfl⟩ <| .cons ⟨rfl, rfl⟩ <| .cons ⟨rfl, rfl⟩ <|
      .cons ⟨rfl, rfl⟩ <| .cons ⟨rfl, rfl⟩ .nil
  exact ⟨hidle, hshift, idle_goes_on_as_new profile timing (-100) past future shifted hidle hshift,
    by decide +kernel⟩

end Sequencer
end HotFire
