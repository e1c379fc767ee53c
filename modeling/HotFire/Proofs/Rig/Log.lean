import HotFire.Proofs.Engine.Step
import HotFire.Proofs.Rig.Levels
import HotFire.Proofs.Sampling.Guard
import HotFire.Rig

/-! What a run tells its log about safety. Single readings of a pressure guard come
between the commands and the steps of a rig, and every change of the shutoff, of a
sensor's bounds and of the burn leaves one record. -/

namespace HotFire

/-- The new value of a mark, if it has changed. -/
def edge (was now : Bool) : List Bool := if was = now then [] else [now]

/-- A mark goes from `now` to `last` by these edges. -/
def Toggles (last : Bool) : Bool → List Bool → Prop
  | now, [] => now = last
  | now, e :: es => e = !now ∧ Toggles last e es

/-- Every edge undoes the one before, and the first is a rise. -/
def Alternates (edges : List Bool) : Prop := (false :: edges).IsChain (· ≠ ·)

instance (edges : List Bool) : Decidable (Alternates edges) :=
  inferInstanceAs (Decidable (List.IsChain _ _))

@[simp] theorem edge_self (b : Bool) : edge b b = [] := by simp [edge]

theorem toggles_edge (was now : Bool) : Toggles now was (edge was now) := by
  cases was <;> cases now <;> simp [edge, Toggles]

theorem Toggles.append {now mid last : Bool} {es fs : List Bool} (h : Toggles mid now es)
    (h' : Toggles last mid fs) : Toggles last now (es ++ fs) := by
  induction es generalizing now with
  | nil => exact (show now = mid from h) ▸ h'
  | cons e es ih => exact ⟨h.1, ih h.2⟩

theorem Toggles.isChain {now last : Bool} {es : List Bool} (h : Toggles last now es) :
    (now :: es).IsChain (· ≠ ·) := by
  induction es generalizing now with
  | nil => exact .singleton now
  | cons e es ih => exact .cons_cons (by simp [h.1]) (ih h.2)

theorem Toggles.getLast {now last : Bool} {es : List Bool} (h : Toggles last now es) :
    (now :: es).getLast? = some last := by
  induction es generalizing now with
  | nil => exact congrArg some h
  | cons e es ih => exact ih h.2

theorem Toggles.last_iff {last : Bool} {es : List Bool} (h : Toggles last false es) :
    last = true ↔ es.getLast? = some true := by
  cases es with
  | nil => simpa using (show false = last from h).symm
  | cons e es =>
    have hlast := h.getLast
    rw [List.getLast?_cons_cons] at hlast
    simp [hlast]

/-- What a burn tells about itself. -/
inductive BurnMark where
  | lit
  | opened
  | ended (outcome : BurnOutcome)
  deriving DecidableEq, Repr

/-- A notice that is told of a change. -/
inductive Record where
  | shutoff (on : Bool)
  | bounds (sensor : Sensor) (outside : Bool)
  | burn (mark : BurnMark)
  deriving DecidableEq, Repr

def Notice.record? : Notice → Option Record
  | .shutoffSet => some (.shutoff true)
  | .shutoffCleared => some (.shutoff false)
  | .averageOutside s _ _ _ => some (.bounds s true)
  | .averageBack s _ => some (.bounds s false)
  | .igniting _ _ => some (.burn .lit)
  | .valvesOpen _ _ => some (.burn .opened)
  | .burnEnded r _ => some (.burn (.ended r))
  | _ => none

namespace Record

def shutoff? : Record → Option Bool
  | .shutoff on => some on
  | .bounds _ _ | .burn _ => none

def bounds? (s : Sensor) : Record → Option Bool
  | .bounds t outside => if t = s then some outside else none
  | .shutoff _ | .burn _ => none

def burn? : Record → Option BurnMark
  | .burn m => some m
  | .shutoff _ | .bounds _ _ => none

section streams

variable {α : Type} (s : Sensor) (es : List Bool) (ms : List BurnMark)

@[simp] theorem shutoff?_shutoff : (es.map shutoff).filterMap shutoff? = es := by
  induction es <;> simp_all [shutoff?]

@[simp] theorem shutoff?_bounds : (es.map (bounds s)).filterMap shutoff? = [] := by
  simp [shutoff?]

@[simp] theorem shutoff?_burn : (ms.map burn).filterMap shutoff? = [] := by simp [shutoff?]

@[simp] theorem bounds?_shutoff : (es.map shutoff).filterMap (bounds? s) = [] := by
  simp [bounds?]

@[simp] theorem bounds?_bounds : (es.map (bounds s)).filterMap (bounds? s) = es := by
  induction es <;> simp_all [bounds?]

theorem bounds?_bounds_of_ne {t : Sensor} (h : t ≠ s) :
    (es.map (bounds t)).filterMap (bounds? s) = [] := by
  simp [bounds?, h]

@[simp] theorem bounds?_burn : (ms.map burn).filterMap (bounds? s) = [] := by simp [bounds?]

@[simp] theorem burn?_shutoff : (es.map shutoff).filterMap burn? = [] := by simp [burn?]

@[simp] theorem burn?_bounds : (es.map (bounds s)).filterMap burn? = [] := by simp [burn?]

@[simp] theorem burn?_burn : (ms.map burn).filterMap burn? = ms := by
  induction ms <;> simp_all [burn?]

end streams

end Record

def records (notices : List Notice) : List Record := notices.filterMap Notice.record?

theorem records_append (ns ns' : List Notice) : records (ns ++ ns') = records ns ++ records ns' :=
  List.filterMap_append

theorem SafetyFlags.shutoffNotices_records (f : SafetyFlags) (on : Bool) :
    records (f.shutoffNotices on) = (edge f.shutoff on).map .shutoff := by
  obtain ⟨ignition, shutoff⟩ := f
  cases shutoff <;> cases on <;> rfl

theorem GuardChannel.foldNotices_records (c : GuardChannel) (raw : UInt16) :
    records (c.foldNotices raw) = (edge c.outside (c.fold raw).outside).map (.bounds c.sensor) := by
  rw [foldNotices]
  cases c.outside <;> cases (c.fold raw).outside <;> rfl

theorem Command.handle_records (profile : EngineProfile) (c : Command) (f : SafetyFlags) :
    records (c.handle profile f).notices =
      (edge f.shutoff (c.handle profile f).flags.shutoff).map .shutoff := by
  obtain ⟨ignition, shutoff⟩ := f
  have hdriver (k : UInt8) (level : Level) :
      records (Handled.driver k level ⟨ignition, shutoff⟩).notices = [] := by
    cases hk : Pin.drivers[k.toNat]? <;> (simp only [Handled.driver, Handled.ignored, hk]; rfl)
  rw [handle_flags]
  cases c with
  | setDriver k | unsetDriver k =>
    simp only [edge_self, List.map_nil]
    cases profile <;> exact hdriver k _
  | startIgnition => cases ignition <;> cases shutoff <;> cases profile <;> rfl
  | stopIgnition => cases ignition <;> cases profile <;> simp <;> rfl
  | _ => cases profile <;> simp <;> rfl

def BurnMark.ofChange (was now : BurnState) (last : Option BurnOutcome) : List BurnMark :=
  if was = now then [] else
    match now with
    | .idle => []
    | .igniting => [.lit]
    | .mainValveOpen => [.opened]
    | .ending => last.toList.map .ended

theorem BurnMark.ofChange_self (st : BurnState) (last : Option BurnOutcome) :
    ofChange st st last = [] := if_pos rfl

theorem BurnContext.openingNotices_records (c : BurnContext) :
    records c.openingNotices = [.burn .opened] := by
  rw [openingNotices]
  cases c.opening? <;> rfl

theorem BurnContext.pulseNotices_records (c : BurnContext) : records c.pulseNotices = [] := by
  obtain ⟨now, _, _, _, _, _, _, train, _, _, _⟩ := c
  cases train with
  | none => rfl
  | some t =>
    show records (t.pollNotices now) = []
    rw [PulseTrain.pollNotices]
    split
    · rfl
    · cases t.opens? <;> rfl

theorem Sequencer.Tidy.step_records {s : Sequencer} (h : s.Tidy) (now : Nat) (f : SafetyFlags) :
    records (s.step now f).notices =
      (BurnMark.ofChange s.state (s.step now f).sequencer.state
        (s.step now f).sequencer.lastOutcome).map .burn := by
  have hm := h.move now f
  generalize s.step now f = r at hm ⊢
  cases hm with
  | wait hs hf | ignite hs hf | burn hs hr ht => rw [hs]; rfl
  | openValves hs hr ht =>
    rw [hs]
    exact (s.inputs now f).openingNotices_records
  | flow hs hr ht =>
    rw [hs]
    exact (s.inputs now f).pulseNotices_records
  | finish r hs hr => rcases hs with hs | hs <;> rw [hs] <;> rfl
  | settle hs => rw [hs]; rfl

namespace PressureGuard

variable {g : PressureGuard} {s : Sensor} {c : GuardChannel}

theorem update_records (h : g.channel? s = some c) (raw : UInt16) (f : SafetyFlags) :
    records (g.update s raw f).notices =
      (edge c.outside (c.fold raw).outside).map (.bounds s) ++
        (edge f.shutoff (g.update s raw f).flags.shutoff).map .shutoff := by
  simp only [update, h, records_append, c.foldNotices_records, channel?_sensor h,
    f.shutoffNotices_records]
  rfl

theorem update_of_unguarded (h : g.channel? s = none) (raw : UInt16) (f : SafetyFlags) :
    g.update s raw f = ⟨g, f, none, []⟩ := by
  simp [update, h]

end PressureGuard

/-- A rig and a pressure guard that share the rig's flags. -/
structure Watch where
  rig : Rig
  guard : PressureGuard

namespace Watch

inductive Event where
  | command (c : Command)
  | step (now : Nat)
  | reading (s : Sensor) (raw : UInt16)
  deriving DecidableEq, Repr

def act (w : Watch) : Event → Watch × Report
  | .command c => ({ w with rig := (w.rig.command c).1 }, (w.rig.command c).2)
  | .step now => ({ w with rig := (w.rig.step now).1 }, (w.rig.step now).2)
  | .reading s raw =>
    let r := w.guard.update s raw w.rig.flags
    (⟨{ w.rig with flags := r.flags }, r.guard⟩, { notices := r.notices })

def after (w : Watch) (events : List Event) : Watch := events.foldl (fun w e => (w.act e).1) w

def reports (w : Watch) : List Event → List Report
  | [] => []
  | e :: es => (w.act e).2 :: (w.act e).1.reports es

def log (w : Watch) (events : List Event) : List Record :=
  records ((w.reports events).flatMap (·.notices))

def state (w : Watch) : BurnState := w.rig.sequencer.state

def shutoff (w : Watch) : Bool := w.rig.flags.shutoff

def Tidy (w : Watch) : Prop := w.rig.sequencer.Tidy

section runs

variable (w : Watch)

@[simp] theorem after_nil : w.after [] = w := rfl

@[simp] theorem log_nil : w.log [] = [] := rfl

theorem after_cons (e : Event) (es : List Event) : w.after (e :: es) = (w.act e).1.after es := rfl

theorem after_append (es fs : List Event) : w.after (es ++ fs) = (w.after es).after fs :=
  List.foldl_append

theorem log_cons (e : Event) (es : List Event) :
    w.log (e :: es) = records (w.act e).2.notices ++ (w.act e).1.log es := by
  rw [log, reports, List.flatMap_cons, records_append]
  rfl

theorem log_append (es fs : List Event) : w.log (es ++ fs) = w.log es ++ (w.after es).log fs := by
  induction es generalizing w with
  | nil => rfl
  | cons e es ih => rw [List.cons_append, log_cons, ih, log_cons, List.append_assoc, after_cons]

end runs

variable {w : Watch}

theorem Tidy.act (h : w.Tidy) (e : Event) : (w.act e).1.Tidy := by
  cases e with
  | command c => exact h
  | reading s raw => exact h
  | step now => exact Sequencer.Tidy.step h now w.rig.flags

theorem Tidy.after (h : w.Tidy) (events : List Event) : (w.after events).Tidy := by
  induction events generalizing w with
  | nil => exact h
  | cons e events ih => exact ih (h.act e)

/-! The records of each kind of event. -/

theorem command_records (w : Watch) (c : Command) :
    records (w.act (.command c)).2.notices =
      (edge w.shutoff (w.act (.command c)).1.shutoff).map .shutoff :=
  c.handle_records w.rig.profile w.rig.flags

theorem Tidy.step_records (h : w.Tidy) (now : Nat) :
    records (w.act (.step now)).2.notices =
      (BurnMark.ofChange w.state (w.act (.step now)).1.state
        (w.act (.step now)).1.rig.sequencer.lastOutcome).map .burn :=
  Sequencer.Tidy.step_records h now w.rig.flags

theorem reading_of_unguarded {s : Sensor} (h : w.guard.channel? s = none) (raw : UInt16) :
    w.act (.reading s raw) = (w, {}) := by
  rw [Watch.act, PressureGuard.update_of_unguarded h]

theorem reading_records {s : Sensor} {c : GuardChannel} (h : w.guard.channel? s = some c)
    (raw : UInt16) : records (w.act (.reading s raw)).2.notices =
      (edge c.outside (c.fold raw).outside).map (.bounds s) ++
        (edge w.shutoff (w.act (.reading s raw)).1.shutoff).map .shutoff :=
  PressureGuard.update_records h raw w.rig.flags

/-- An event tells of the shutoff exactly when it changes it. -/
theorem Tidy.act_shutoff (h : w.Tidy) (e : Event) :
    (records (w.act e).2.notices).filterMap Record.shutoff? =
      edge w.shutoff (w.act e).1.shutoff := by
  cases e with
  | command c => rw [command_records, Record.shutoff?_shutoff]
  | step now =>
    have hkeep : (w.act (.step now)).1.shutoff = w.shutoff :=
      Sequencer.step_shutoff h now w.rig.flags
    rw [h.step_records, Record.shutoff?_burn, hkeep, edge_self]
  | reading s raw =>
    cases hc : w.guard.channel? s with
    | none =>
      rw [reading_of_unguarded hc, edge_self]
      rfl
    | some c =>
      rw [reading_records hc, List.filterMap_append, Record.shutoff?_bounds,
        Record.shutoff?_shutoff, List.nil_append]

theorem Tidy.log_shutoff (h : w.Tidy) (events : List Event) :
    Toggles (w.after events).shutoff w.shutoff
      ((w.log events).filterMap Record.shutoff?) := by
  induction events generalizing w with
  | nil => rfl
  | cons e events ih =>
    rw [log_cons, List.filterMap_append, h.act_shutoff]
    exact (toggles_edge _ _).append (ih (h.act e))

/-- An event tells of a sensor's bounds exactly when it changes them, and only a
reading of the sensor does. -/
theorem Tidy.act_bounds (h : w.Tidy) {s : Sensor} {c : GuardChannel}
    (hc : w.guard.channel? s = some c) (e : Event) :
    ∃ c', (w.act e).1.guard.channel? s = some c' ∧
      (records (w.act e).2.notices).filterMap (Record.bounds? s) = edge c.outside c'.outside ∧
      ((∃ raw, e = .reading s raw ∧ c' = c.fold raw) ∨ (∀ raw, e ≠ .reading s raw) ∧ c' = c) := by
  cases e with
  | command cmd =>
    exact ⟨c, hc, by rw [command_records, Record.bounds?_shutoff, edge_self], .inr ⟨by simp, rfl⟩⟩
  | step now =>
    exact ⟨c, hc, by rw [h.step_records, Record.bounds?_burn, edge_self], .inr ⟨by simp, rfl⟩⟩
  | reading t raw =>
    have hnext := w.guard.update_channel? s t raw w.rig.flags
    rw [hc] at hnext
    by_cases ht : t = s
    · subst ht
      rw [if_pos rfl] at hnext
      refine ⟨c.fold raw, hnext, ?_, .inl ⟨raw, rfl, rfl⟩⟩
      rw [reading_records hc, List.filterMap_append, Record.bounds?_bounds, Record.bounds?_shutoff,
        List.append_nil]
    · rw [if_neg ht] at hnext
      refine ⟨c, hnext, ?_, .inr ⟨by simp [ht], rfl⟩⟩
      rw [edge_self]
      cases hu : w.guard.channel? t with
      | none =>
        rw [reading_of_unguarded hu]
        rfl
      | some d =>
        rw [reading_records hu, List.filterMap_append, Record.bounds?_bounds_of_ne _ _ ht,
          Record.bounds?_shutoff, List.append_nil]

def Reads (s : Sensor) (events : List Event) : Prop := ∃ raw, .reading s raw ∈ events

/-- What the log tells of a guarded sensor. Before its first reading that is
nothing, whatever its average starts from. -/
theorem Tidy.log_bounds (h : w.Tidy) {s : Sensor} {c : GuardChannel}
    (hc : w.guard.channel? s = some c) (events : List Event) :
    ∃ c', (w.after events).guard.channel? s = some c' ∧
      Toggles c'.outside c.outside ((w.log events).filterMap (Record.bounds? s)) ∧
      (Reads s events → c'.outside = !c'.limits.inBounds c'.average) ∧
      (¬ Reads s events → c' = c ∧ (w.log events).filterMap (Record.bounds? s) = []) := by
  -- from the end, since the last reading decides what the average is held against
  induction events using List.reverseRecOn with
  | nil => exact ⟨c, hc, rfl, fun ⟨_, hm⟩ => absurd hm (by simp), fun _ => ⟨rfl, rfl⟩⟩
  | append_singleton events e ih =>
    obtain ⟨c₁, hc₁, ht₁, hread₁, hno₁⟩ := ih
    obtain ⟨c₂, hc₂, he, hkind⟩ := (h.after events).act_bounds hc₁ e
    have hlog : (w.log (events ++ [e])).filterMap (Record.bounds? s) =
        (w.log events).filterMap (Record.bounds? s) ++ edge c₁.outside c₂.outside := by
      rw [log_append, List.filterMap_append, log_cons, log_nil, List.append_nil, he]
    rw [after_append, hlog]
    refine ⟨c₂, hc₂, ht₁.append (toggles_edge _ _), ?_, ?_⟩
    · rintro ⟨raw, hm⟩
      rcases hkind with ⟨raw', -, rfl⟩ | ⟨hne, rfl⟩
      · rfl
      · refine hread₁ ⟨raw, ?_⟩
        rcases List.mem_append.mp hm with hm | hm
        · exact hm
        · exact absurd (List.mem_singleton.mp hm).symm (hne raw)
    · intro hno
      rcases hkind with ⟨raw, rfl, -⟩ | ⟨-, rfl⟩
      · exact absurd ⟨raw, by simp⟩ hno
      · obtain ⟨rfl, hnil⟩ := hno₁ fun ⟨raw, hm⟩ => hno ⟨raw, List.mem_append_left _ hm⟩
        exact ⟨rfl, by rw [hnil, edge_self]; rfl⟩

/-- An event that is a step shows the state it leaves; no other changes the state. -/
theorem act_state (w : Watch) (e : Event) :
    (w.act e).2.state = some (w.act e).1.state ∨
      (w.act e).2.state = none ∧ (w.act e).1.state = w.state := by
  cases e with
  | step now => exact .inl rfl
  | command c => exact .inr ⟨rfl, rfl⟩
  | reading s raw => exact .inr ⟨rfl, rfl⟩

theorem state_of_shown {e : Event} {st : BurnState} (h : (w.act e).2.state = some st) :
    (w.act e).1.state = st := by
  rcases w.act_state e with hs | ⟨hs, -⟩
  · exact Option.some.inj (hs.symm.trans h)
  · rw [hs] at h
    cases h

theorem Tidy.act_burn (h : w.Tidy) (e : Event) :
    (records (w.act e).2.notices).filterMap Record.burn? =
      BurnMark.ofChange w.state (w.act e).1.state (w.act e).1.rig.sequencer.lastOutcome := by
  cases e with
  | command c =>
    rw [command_records, Record.burn?_shutoff]
    exact (BurnMark.ofChange_self w.state _).symm
  | step now => rw [h.step_records, Record.burn?_burn]
  | reading s raw =>
    refine Eq.trans ?_ (BurnMark.ofChange_self w.state _).symm
    cases hc : w.guard.channel? s with
    | none =>
      rw [reading_of_unguarded hc]
      rfl
    | some c =>
      rw [reading_records hc, List.filterMap_append, Record.burn?_bounds, Record.burn?_shutoff,
        List.append_nil]

/-- A burn under way goes on as it is, opens its valves, or ends with an outcome. -/
theorem Tidy.act_lit (h : w.Tidy) (hlit : w.state.lit = true) (e : Event) :
    (w.act e).1.state = w.state ∨
      w.state = .igniting ∧ (w.act e).1.state = .mainValveOpen ∨
      (w.act e).1.state = .ending ∧
        ((w.act e).1.rig.sequencer.lastOutcome).isSome = true := by
  cases e with
  | command c => exact .inl rfl
  | reading s raw => exact .inl rfl
  | step now =>
    have hm : Sequencer.Move w.rig.sequencer now w.rig.flags _ :=
      Sequencer.Tidy.move h now w.rig.flags
    show (w.rig.sequencer.step now w.rig.flags).sequencer.state = w.rig.sequencer.state ∨
      w.rig.sequencer.state = .igniting ∧
        (w.rig.sequencer.step now w.rig.flags).sequencer.state = .mainValveOpen ∨
      (w.rig.sequencer.step now w.rig.flags).sequencer.state = .ending ∧
        ((w.rig.sequencer.step now w.rig.flags).sequencer.lastOutcome).isSome = true
    have hlit' : w.rig.sequencer.state.lit = true := hlit
    generalize w.rig.sequencer.step now w.rig.flags = r at hm ⊢
    cases hm with
    | wait hs hf | ignite hs hf | settle hs => simp [hs] at hlit'
    | burn hs hr ht | flow hs hr ht => exact .inl hs.symm
    | openValves hs hr ht => exact .inr (.inl ⟨hs, rfl⟩)
    | finish r hs hr => exact .inr (.inr ⟨rfl, rfl⟩)

theorem Tidy.outcome_of_ends (h : w.Tidy) (hlit : w.state.lit = true) {e : Event}
    (he : (w.act e).2.state = some .ending) :
    ∃ r, (w.act e).1.rig.sequencer.lastOutcome = some r := by
  have hend := state_of_shown he
  rcases h.act_lit hlit e with hkeep | ⟨-, hopen⟩ | ⟨-, hsome⟩
  · rw [← hkeep, hend] at hlit
    cases hlit
  · rw [hend] at hopen
    cases hopen
  · exact Option.isSome_iff_exists.mp hsome

/-- Whether one of these reports is of a step that left the main valve open. -/
def opens (reports : List Report) : Bool := reports.any (·.state == some .mainValveOpen)

/-- While it does not end, a burn tells of its opened valves once, and only when it
comes to that from the igniter. -/
theorem Tidy.log_burning (h : w.Tidy) (hlit : w.state.lit = true) {during : List Event}
    (hgoes : ∀ p ∈ w.reports during, p.state ≠ some .ending) :
    (w.after during).state.lit = true ∧
      (w.log during).filterMap Record.burn? =
        if w.state = .igniting ∧ opens (w.reports during) = true then [.opened] else [] := by
  induction during generalizing w with
  | nil => exact ⟨hlit, by simp [reports, opens]⟩
  | cons e during ih =>
    have hgo : (w.act e).2.state ≠ some .ending := hgoes _ (by simp [reports])
    have hrest : ∀ p ∈ (w.act e).1.reports during, p.state ≠ some .ending :=
      fun p hp => hgoes p (by simp [reports, hp])
    have hlog : (w.log (e :: during)).filterMap Record.burn? =
        BurnMark.ofChange w.state (w.act e).1.state (w.act e).1.rig.sequencer.lastOutcome ++
          ((w.act e).1.log during).filterMap Record.burn? := by
      rw [log_cons, List.filterMap_append, h.act_burn]
    have hopens : opens (w.reports (e :: during)) =
        ((w.act e).2.state == some .mainValveOpen || opens ((w.act e).1.reports during)) := rfl
    rcases h.act_lit hlit e with hkeep | ⟨hfrom, hopen⟩ | ⟨hend, -⟩
    · -- the event tells of nothing, and what is opened is opened later
      obtain ⟨hafter, hmarks⟩ := ih (h.act e) (hkeep ▸ hlit) hrest
      refine ⟨hafter, ?_⟩
      have hshow : w.state = .igniting → ((w.act e).2.state == some .mainValveOpen) = false := by
        intro hw
        rcases w.act_state e with hs | ⟨hs, -⟩ <;> simp [hs, hkeep, hw]
      rw [hlog, hmarks, hkeep, BurnMark.ofChange_self, List.nil_append, hopens]
      refine if_congr (and_congr_right fun hw => ?_) rfl rfl
      rw [hshow hw, Bool.false_or]
    · -- the rest starts in hotflow, from where the valves are not opened again
      obtain ⟨hafter, hmarks⟩ := ih (h.act e) (by rw [hopen]; rfl) hrest
      refine ⟨hafter, ?_⟩
      have hshow : (w.act e).2.state = some .mainValveOpen := by
        rcases w.act_state e with hs | ⟨-, hs⟩
        · rw [hs, hopen]
        · rw [hopen, hfrom] at hs
          cases hs
      rw [hlog, hmarks, hopens, hshow, hopen, hfrom]
      rfl
    · -- only a step ends a burn, and it shows that
      rcases w.act_state e with hs | ⟨-, hs⟩
      · exact absurd (hs.trans (congrArg some hend)) hgo
      · rw [← hs, hend] at hlit
        cases hlit

/-- A burn from the event that lights the igniter to the one that ends it. -/
structure Burn (w : Watch) (begin : Event) (during : List Event) (finish : Event) : Prop where
  idle : w.state = .idle
  lights : (w.act begin).2.state = some .igniting
  goes : ∀ p ∈ (w.act begin).1.reports during, p.state ≠ some .ending
  ends : (((w.act begin).1.after during).act finish).2.state = some .ending

theorem Tidy.log_burn (h : w.Tidy) {begin finish : Event} {during : List Event}
    (hb : w.Burn begin during finish) :
    ∃ r, (w.after (begin :: during ++ [finish])).rig.sequencer.lastOutcome = some r ∧
      (w.log (begin :: during ++ [finish])).filterMap Record.burn? =
        .lit :: (if opens ((w.act begin).1.reports during) then [.opened] else []) ++ [.ended r] ∧
      ((w.after (begin :: during)).log [finish]).filterMap Record.burn? = [.ended r] := by
  have hlights := state_of_shown hb.lights
  obtain ⟨hlit, hmarks⟩ := (h.act begin).log_burning (by rw [hlights]; rfl) hb.goes
  have hafter : w.after (begin :: during) = (w.act begin).1.after during := rfl
  have htidy : (w.after (begin :: during)).Tidy := h.after _
  have hends : ((w.after (begin :: during)).act finish).2.state = some .ending := hb.ends
  rw [← hafter] at hlit
  obtain ⟨r, hr⟩ := htidy.outcome_of_ends hlit hends
  have hlast : ((w.after (begin :: during)).log [finish]).filterMap Record.burn? =
      [.ended r] := by
    have hlit' : (w.after (begin :: during)).state ≠ .ending := by
      intro hs
      rw [hs] at hlit
      cases hlit
    rw [log_cons, log_nil, List.append_nil, htidy.act_burn, hr, state_of_shown hends,
      BurnMark.ofChange, if_neg hlit']
    rfl
  refine ⟨r, ?_, ?_, hlast⟩
  · rw [after_append]
    exact hr
  · rw [log_append, List.filterMap_append, hlast, log_cons, List.filterMap_append, hmarks,
      h.act_burn, hlights, hb.idle]
    simp [BurnMark.ofChange]

end Watch

theorem PressureGuard.ofSpecs?_inside {specs : List SensorSpec} {g : PressureGuard}
    (hg : ofSpecs? specs = some g) {s : Sensor} {c : GuardChannel} (hc : g.channel? s = some c) :
    c.outside = false := by
  simp only [ofSpecs?, Option.ite_none_left_eq_some, Option.some.injEq] at hg
  obtain ⟨-, rfl⟩ := hg
  have hm := List.mem_of_mem_take (List.mem_of_find?_eq_some hc)
  obtain ⟨spec, -, hspec⟩ := List.mem_filterMap.mp hm
  obtain ⟨limits, -, rfl⟩ := Option.map_eq_some_iff.mp hspec
  rfl

namespace Watch

def fresh (profile : EngineProfile) (timing : BurnTiming) (g : PressureGuard) : Watch :=
  ⟨Rig.fresh profile timing [], g⟩

/-- What the log tells of a run. The records of the shutoff alternate and end with
its level. Those of each guarded sensor alternate and end with whether its average
is out of bounds; before the first reading there are none. Each burn that has ended
left one record of its igniter, one of its valves if it opened them, and one of its
end with the outcome that the sequencer then keeps. -/
theorem log_tells_every_edge_once (profile : EngineProfile) (timing : BurnTiming)
    {specs : List SensorSpec} {g : PressureGuard} (hg : PressureGuard.ofSpecs? specs = some g)
    (events : List Event) :
    let w := fresh profile timing g
    (Alternates ((w.log events).filterMap Record.shutoff?) ∧
      ((w.after events).shutoff = true ↔
        ((w.log events).filterMap Record.shutoff?).getLast? = some true)) ∧
    (∀ s, g.guards s = true →
      Alternates ((w.log events).filterMap (Record.bounds? s)) ∧
      ∃ c, (w.after events).guard.channel? s = some c ∧
        (Reads s events → (c.limits.inBounds c.average = false ↔
          ((w.log events).filterMap (Record.bounds? s)).getLast? = some true)) ∧
        (¬ Reads s events → (w.log events).filterMap (Record.bounds? s) = [])) ∧
    ∀ before begin during finish since,
      events = before ++ (begin :: during ++ [finish]) ++ since →
      (w.after before).Burn begin during finish →
      ∃ r, (w.after (before ++ (begin :: during ++ [finish]))).rig.sequencer.lastOutcome = some r ∧
        ((w.after before).log (begin :: during ++ [finish])).filterMap Record.burn? =
          .lit ::
            (if opens ((w.after (before ++ [begin])).reports during) then [.opened] else []) ++
            [.ended r] ∧
        ((w.after (before ++ begin :: during)).log [finish]).filterMap Record.burn? =
          [.ended r] := by
  intro w
  have htidy : w.Tidy := Sequencer.start_tidy profile timing
  refine ⟨?_, ?_, ?_⟩
  · have ht : Toggles (w.after events).shutoff false _ := htidy.log_shutoff events
    exact ⟨ht.isChain, ht.last_iff⟩
  · intro s hs
    obtain ⟨c, hc⟩ := Option.isSome_iff_exists.mp hs
    obtain ⟨c', hc', ht, hread, hno⟩ := htidy.log_bounds hc events
    rw [PressureGuard.ofSpecs?_inside hg hc] at ht
    refine ⟨ht.isChain, c', hc', fun hr => ?_, fun hn => (hno hn).2⟩
    rw [← ht.last_iff, hread hr, Bool.not_eq_true']
  · intro before begin during finish since _ hb
    obtain ⟨r, hr, hall, hlast⟩ := (htidy.after before).log_burn hb
    have hbegun : w.after (before ++ [begin]) = ((w.after before).act begin).1 :=
      w.after_append before [begin]
    rw [← after_append] at hr hlast
    rw [hbegun]
    exact ⟨r, hr, hall, hlast⟩

/-- A transducer leaves its bounds before the burn, whose start clears the shutoff;
its next reading, in hotflow, sets it again and ends the burn. Then it comes back. -/
theorem log_tells_every_edge_once_of_shutoff :
    let limits : PressureLimits := ⟨1.0, 0.0, 300.0, 800.0, 700.0⟩
    let specs := [(SensorSpec.ofSensor .pt1).withLimits limits, SensorSpec.ofSensor .pt2]
    let g : PressureGuard := ⟨[.start .pt1 limits]⟩
    let w := fresh .generic ⟨100, 1000, 50, 10⟩ g
    let before : List Event := [.reading .pt1 3000, .command .startIgnition]
    let during : List Event := [.step 20, .step 105, .reading .pt2 0, .reading .pt1 3000]
    let since : List Event := [.reading .pt1 0, .reading .pt1 0, .step 125, .reading .pt1 0]
    let events := before ++ (.step 5 :: during ++ [.step 115]) ++ since
    PressureGuard.ofSpecs? specs = some g ∧ g.guards .pt1 = true ∧
      (w.after before).Burn (.step 5) during (.step 115) ∧
      (w.log events).filterMap Record.shutoff? = [true, false, true, false] ∧
      (w.after events).shutoff = false ∧
      (w.log events).filterMap (Record.bounds? .pt1) = [true, false] ∧
      (∃ c, (w.after events).guard.channel? .pt1 = some c ∧
        c.limits.inBounds c.average = true) ∧
      ∃ r, (w.after (before ++ (.step 5 :: during ++ [.step 115]))).rig.sequencer.lastOutcome =
          some r ∧
        ((w.after before).log (.step 5 :: during ++ [.step 115])).filterMap Record.burn? =
          [.lit, .opened, .ended r] := by
  intro limits specs g w before during since events
  have hg : PressureGuard.ofSpecs? specs = some g := rfl
  have hw : fresh .generic ⟨100, 1000, 50, 10⟩ g = w := rfl
  have hburn : (w.after before).Burn (.step 5) during (.step 115) :=
    ⟨by decide, by decide, by decide, by decide +kernel⟩
  obtain ⟨⟨-, hlevel⟩, hbounds, hburns⟩ :=
    log_tells_every_edge_once .generic ⟨100, 1000, 50, 10⟩ hg events
  obtain ⟨-, c, hc, hread, -⟩ := hbounds .pt1 rfl
  have hshutoff : (w.log events).filterMap Record.shutoff? = [true, false, true, false] := by
    decide +kernel
  have hedges : (w.log events).filterMap (Record.bounds? .pt1) = [true, false] := by
    decide +kernel
  have hopens : opens ((w.after (before ++ [.step 5])).reports during) = true := by
    decide +kernel
  obtain ⟨r, hr, hmarks, -⟩ := hburns before (.step 5) during (.step 115) since rfl hburn
  rw [hw] at hlevel hr hmarks hc
  rw [hopens] at hmarks
  refine ⟨hg, rfl, hburn, hshutoff, ?_, hedges, ⟨c, hc, ?_⟩, r, hr, hmarks⟩
  · rw [hshutoff] at hlevel
    simpa using hlevel
  · have hpt1 := hread ⟨0, by simp [events, since]⟩
    rw [hedges] at hpt1
    simpa using hpt1

end Watch

end HotFire
