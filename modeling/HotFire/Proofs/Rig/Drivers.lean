import HotFire.Proofs.Rig.Calls

/-! The driver channels and the engine side by side. A driver's line follows the
commands for that driver, and all else goes on as if there were none. -/

namespace HotFire

/-- The levels written to a line, in order. -/
def levels (pin : Pin) (ws : List PinWrite) : List Level := (ws.filter (·.1 == pin)).map (·.2)

theorem levels_append (pin : Pin) (ws ws' : List PinWrite) :
    levels pin (ws ++ ws') = levels pin ws ++ levels pin ws' := by
  rw [levels, List.filter_append, List.map_append]
  rfl

theorem levels_eq_nil {pin : Pin} {ws : List PinWrite} (h : ∀ w ∈ ws, w.1 ≠ pin) :
    levels pin ws = [] := by
  have hnone : ws.filter (·.1 == pin) = [] := by
    rw [List.filter_eq_nil_iff]
    intro w hw
    simpa using h w hw
  rw [levels, hnone, List.map_nil]

namespace Pin

theorem drivers_nodup : drivers.Nodup := by decide

/-- The lines that a burn or an engine's preset writes. -/
def engineLines : List Pin := [igniter, valve1, valve2, valve3, heatingTape]

theorem engineLine_not_driver {pin : Pin} (h : pin ∈ engineLines) : pin ∉ drivers := by
  revert pin
  decide

end Pin

theorem EngineProfile.writes_engineLines {p : EngineProfile} {w : PinWrite}
    (h : w ∈ p.openLevels ++ p.endLevels) : w.1 ∈ Pin.engineLines := by
  -- the plan of a Luna engine is in none of its levels, so that one without a plan speaks for all
  have hall : ∀ q ∈ [generic, luna none, titan], ∀ w ∈ q.openLevels ++ q.endLevels,
      w.1 ∈ Pin.engineLines := by decide
  cases p with
  | generic => exact hall .generic (by simp) w h
  | luna plan => exact hall (.luna none) (by simp) w h
  | titan => exact hall .titan (by simp) w h

theorem Sequencer.Tidy.step_lines {s : Sequencer} (h : s.Tidy) {now : Nat} {f : SafetyFlags}
    {w : PinWrite} (hw : w ∈ (s.step now f).writes) : w.1 ∈ Pin.engineLines := by
  have hm := h.move now f
  generalize s.step now f = r at hm hw
  cases hm with
  | wait hs hf | burn hs hr ht | settle hs =>
    rw [writing_writes] at hw
    cases hw
  | ignite hs hf =>
    rw [writing_writes, List.mem_singleton] at hw
    rw [hw]
    decide
  | openValves hs hr ht =>
    rw [writing_writes] at hw
    exact EngineProfile.writes_engineLines (List.mem_append_left _ hw)
  | flow hs hr ht =>
    rw [writing_writes] at hw
    rw [BurnContext.pulse_edge hw]
    decide
  | finish r hs hr =>
    rw [finishing_writes, List.mem_append] at hw
    rcases hw with hw | hw
    · rw [BurnContext.closing_edge hw]
      decide
    · exact EngineProfile.writes_engineLines (List.mem_append_right _ hw)

namespace Command

theorem titanPreset_engineLines {c : Command} {label : String} {ws : List PinWrite}
    (h : c.titanPreset? = some (label, ws)) {w : PinWrite} (hw : w ∈ ws) :
    w.1 ∈ Pin.engineLines := by
  cases c <;> simp only [titanPreset?, Option.some.injEq, Prod.mk.injEq, reduceCtorEq] at h <;>
    obtain ⟨-, rfl⟩ := h <;> revert w <;> decide

theorem lunaPreset_engineLines {c : Command} {label : String} {w : PinWrite}
    (h : c.lunaPreset? = some (label, w)) : w.1 ∈ Pin.engineLines := by
  cases c <;> simp only [lunaPreset?, Option.some.injEq, Prod.mk.injEq, reduceCtorEq] at h <;>
    obtain ⟨-, rfl⟩ := h <;> decide

theorem handle_lines {profile : EngineProfile} {c : Command} {f : SafetyFlags} {w : PinWrite}
    (hc : c.drives = false) (hw : w ∈ (c.handle profile f).writes) : w.1 ∈ Pin.engineLines := by
  rcases handle_writes_cases hw with ⟨hd, -⟩ | ⟨-, rfl | rfl⟩ | ⟨-, label, ws, h, hm⟩ |
    ⟨plan, label, -, h⟩
  · rw [hc] at hd
    cases hd
  · decide
  · decide
  · exact titanPreset_engineLines h hm
  · exact lunaPreset_engineLines h

/-- No engine has presets of its own under the commands of the drivers. -/
theorem handle_driver_writes {c : Command} (hc : c.drives = true) (profile : EngineProfile)
    (f : SafetyFlags) : (c.handle profile f).writes = (Handled.base profile c f).writes := by
  cases c with
  | setDriver k | unsetDriver k => cases profile <;> rfl
  | _ => cases hc

theorem handle_driver_flags {c : Command} (hc : c.drives = true) (profile : EngineProfile)
    (f : SafetyFlags) : (c.handle profile f).flags = f := by
  cases c with
  | setDriver k | unsetDriver k => exact handle_flags _ _ _
  | _ => cases hc

/-- The level that a driver's command sets the driver to. -/
def driverLevel : Command → Level
  | .setDriver _ => .high
  | _ => .low

end Command

namespace Call

def drives (c : Call) : Bool :=
  match c.deed with
  | .command cmd => cmd.drives
  | _ => false

/-- The command of the call, if it is one for driver `k`. -/
def driverCommand? (k : UInt8) (c : Call) : Option Command :=
  match c.deed with
  | .command cmd => if cmd = .setDriver k ∨ cmd = .unsetDriver k then some cmd else none
  | _ => none

theorem driverCommand?_of_not_drives {c : Call} (hc : c.drives = false) (k : UInt8) :
    c.driverCommand? k = none := by
  obtain ⟨time, deed⟩ := c
  cases deed with
  | command cmd => cases cmd <;> simp_all [driverCommand?, drives, Command.drives]
  | _ => rfl

end Call

/-- Each driver has a line of its own. -/
theorem levels_driver {k : UInt8} {pin : Pin} (hk : Pin.drivers[k.toNat]? = some pin) (j : UInt8)
    (level : Level) (f : SafetyFlags) :
    levels pin (Handled.driver j level f).writes = if j = k then [level] else [] := by
  rw [Handled.driver_writes_eq]
  by_cases hj : j = k
  · simp [hj, hk, levels]
  · rw [if_neg hj]
    refine levels_eq_nil fun w hw => ?_
    obtain ⟨line, hline, rfl⟩ := List.mem_map.mp hw
    have hlt : k.toNat < Pin.drivers.length := (List.getElem?_eq_some_iff.mp hk).1
    rintro rfl
    have heq := (List.getElem?_inj hlt Pin.drivers_nodup).mp
      (hk.trans (Option.mem_toList.mp hline).symm)
    exact hj (UInt8.toNat_inj.mp heq.symm)

namespace Rig

variable {r : Rig} {c : Call} {k : UInt8} {pin : Pin}

theorem report_lines (h : r.sequencer.Tidy) (hc : c.drives = false) {w : PinWrite}
    (hw : w ∈ (r.report c).writes) : w.1 ∈ Pin.engineLines := by
  rcases c.step_or with ⟨now, rfl⟩ | hs
  · exact h.step_lines hw
  · obtain ⟨cmd, hd, hcmd⟩ := mem_writes_of_not_step hs hw
    rw [Call.drives, hd] at hc
    exact Command.handle_lines hc hcmd

theorem act_of_drives (hc : c.drives = true) : (r.act c.action).1 = r := by
  obtain ⟨time, deed⟩ := c
  cases deed with
  | command cmd =>
    show { r with flags := (cmd.handle r.profile r.flags).flags } = r
    rw [Command.handle_driver_flags hc]
  | _ => cases hc

theorem report_lines_of_drives (hc : c.drives = true) {w : PinWrite}
    (hw : w ∈ (r.report c).writes) : w.1 ∈ Pin.drivers := by
  obtain ⟨time, deed⟩ := c
  cases deed with
  | command cmd =>
    have hb : w ∈ (Handled.base r.profile cmd r.flags).writes :=
      Command.handle_driver_writes hc r.profile r.flags ▸ hw
    rcases Handled.base_writes hb with ⟨-, hm⟩ | ⟨rfl, -⟩
    · exact hm
    · cases hc
  | _ => cases hc

theorem report_levels (h : r.sequencer.Tidy) (hk : Pin.drivers[k.toNat]? = some pin) (c : Call) :
    levels pin (r.report c).writes = (c.driverCommand? k).toList.map Command.driverLevel := by
  cases hc : c.drives with
  | false =>
    rw [Call.driverCommand?_of_not_drives hc, Option.toList_none, List.map_nil]
    refine levels_eq_nil fun w hw heq => ?_
    exact Pin.engineLine_not_driver (report_lines h hc hw) (heq ▸ List.mem_of_getElem? hk)
  | true =>
    obtain ⟨time, deed⟩ := c
    cases deed with
    | command cmd =>
      have hw : (r.report ⟨time, .command cmd⟩).writes =
        (Handled.base r.profile cmd r.flags).writes := Command.handle_driver_writes hc _ _
      rw [hw]
      cases cmd with
      | setDriver j =>
        refine (levels_driver hk j .high r.flags).trans ?_
        by_cases hj : j = k <;> simp [Call.driverCommand?, Command.driverLevel, hj]
      | unsetDriver j =>
        refine (levels_driver hk j .low r.flags).trans ?_
        by_cases hj : j = k <;> simp [Call.driverCommand?, Command.driverLevel, hj]
      | _ => cases hc
    | _ => cases hc

/-- The levels of a driver's line are those that its own commands name. -/
theorem writes_levels (h : r.sequencer.Tidy) (hk : Pin.drivers[k.toNat]? = some pin)
    (calls : List Call) : levels pin (r.writes calls) =
      (calls.filterMap (Call.driverCommand? k)).map Command.driverLevel := by
  induction calls generalizing r with
  | nil => rfl
  | cons c calls ih =>
    rw [writes_cons, levels_append, report_levels h hk, ih (act_tidy h c)]
    cases hc : c.driverCommand? k <;> simp [hc]

theorem marks_filter (h : r.sequencer.Tidy) (c : Call) :
    (r.marks c).filter (fun e => e.write.1 ∉ Pin.drivers) =
      if c.drives then [] else r.marks c := by
  cases hc : c.drives with
  | true =>
    rw [if_pos rfl, List.filter_eq_nil_iff]
    intro e he
    simpa using report_lines_of_drives hc (write_mem_of_marks he)
  | false =>
    rw [if_neg Bool.false_ne_true, List.filter_eq_self]
    intro e he
    simpa using Pin.engineLine_not_driver (report_lines h hc (write_mem_of_marks he))

/-- Without the drivers' commands a run leaves the same rig behind, writes the same to
the other lines at the same times, and reports the same of every call that is left. -/
theorem undriven (h : r.sequencer.Tidy) (calls : List Call) :
    r.after (calls.filter (!·.drives)) = r.after calls ∧
      r.history (calls.filter (!·.drives)) =
        (r.history calls).filter (fun e => e.write.1 ∉ Pin.drivers) ∧
      r.reports (calls.filter (!·.drives)) =
        ((calls.zip (r.reports calls)).filter (!·.1.drives)).map (·.2) := by
  induction calls generalizing r with
  | nil => exact ⟨rfl, rfl, rfl⟩
  | cons c calls ih =>
    obtain ⟨hafter, hhistory, hreports⟩ := ih (act_tidy h c)
    rw [history_cons, List.filter_append, marks_filter h c, reports_cons, List.zip_cons_cons]
    cases hc : c.drives with
    | true =>
      rw [act_of_drives hc] at hafter hhistory hreports
      simp only [List.filter_cons, hc, Bool.not_true, Bool.false_eq_true, if_false, if_true,
        List.nil_append, after_cons, act_of_drives hc]
      exact ⟨hafter, hhistory, hreports⟩
    | false =>
      simp only [List.filter_cons, hc, Bool.not_false, Bool.false_eq_true, if_false, if_true,
        after_cons, history_cons, reports_cons, List.map_cons]
      exact ⟨hafter, by rw [hhistory], by rw [hreports]⟩

/-- The drivers and the engine do not interfere. The levels of a driver's line are
those that its own commands name, so that two runs with the same commands for it
agree on it whatever else they hold. And the drivers' commands may be left out of a
run: that changes nothing in the rig, in the writes to other lines, and in what the
other calls report. -/
theorem drivers_and_engine_apart (profile : EngineProfile) (timing : BurnTiming)
    (loops : List SamplingLoop) :
    let rig := fresh profile timing loops
    (∀ k pin, Pin.drivers[UInt8.toNat k]? = some pin → ∀ xs ys : List Call,
        xs.filterMap (Call.driverCommand? k) = ys.filterMap (Call.driverCommand? k) →
        levels pin (rig.writes xs) = levels pin (rig.writes ys) ∧
          levels pin (rig.writes xs) =
            (xs.filterMap (Call.driverCommand? k)).map Command.driverLevel) ∧
      ∀ calls : List Call,
        let rest := calls.filter (!·.drives)
        rig.after rest = rig.after calls ∧
          rig.history rest = (rig.history calls).filter (fun e => e.write.1 ∉ Pin.drivers) ∧
          rig.reports rest = ((calls.zip (rig.reports calls)).filter (!·.1.drives)).map (·.2) := by
  intro rig
  have htidy : rig.sequencer.Tidy := Sequencer.start_tidy profile timing
  refine ⟨?_, undriven htidy⟩
  intro k pin hk xs ys hsame
  rw [writes_levels htidy hk xs, writes_levels htidy hk ys, hsame]
  exact ⟨rfl, rfl⟩

/-- Driver 3 between the commands of a burn and among those of driver 0, and the same
commands for driver 3 alone. -/
theorem drivers_and_engine_apart_of_burn :
    let rig := fresh .titan ⟨100, 1000, 2000, 10⟩ []
    let busy : List Call := [⟨0, .command .startIgnition⟩, ⟨5, .command (.setDriver 3)⟩,
      ⟨5, .command (.setDriver 0)⟩, ⟨10, .step⟩, ⟨20, .command (.unsetDriver 3)⟩,
      ⟨110, .step⟩, ⟨120, .command .fill⟩, ⟨130, .command (.unsetDriver 0)⟩,
      ⟨140, .command (.setDriver 3)⟩]
    let quiet : List Call := [⟨0, .command (.setDriver 3)⟩, ⟨0, .command (.unsetDriver 3)⟩,
      ⟨0, .command (.setDriver 3)⟩]
    Pin.drivers[(3 : UInt8).toNat]? = some 13 ∧
      busy.filterMap (Call.driverCommand? 3) = quiet.filterMap (Call.driverCommand? 3) ∧
      levels 13 (rig.writes busy) = levels 13 (rig.writes quiet) ∧
      levels 13 (rig.writes busy) = [.high, .low, .high] := by
  intro rig busy quiet
  have hk : Pin.drivers[(3 : UInt8).toNat]? = some 13 := rfl
  have hsame : busy.filterMap (Call.driverCommand? 3) = quiet.filterMap (Call.driverCommand? 3) :=
    rfl
  obtain ⟨heq, hlevels⟩ :=
    (drivers_and_engine_apart .titan ⟨100, 1000, 2000, 10⟩ []).1 3 13 hk busy quiet hsame
  exact ⟨hk, hsame, heq, hlevels⟩

end Rig

end HotFire
