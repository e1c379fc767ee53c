import HotFire.Pins
import Mathlib.Data.List.Nodup

/-! The level of a line, read off the writes made so far. -/

namespace HotFire

theorem lastLevel_append (pin : Pin) (ws ws' : List PinWrite) :
    lastLevel pin (ws ++ ws') = (lastLevel pin ws').or (lastLevel pin ws) := by
  simp [lastLevel, List.find?_append, Option.map_or]

theorem mem_of_lastLevel {pin : Pin} {ws : List PinWrite} {level : Level}
    (h : lastLevel pin ws = some level) : (pin, level) ∈ ws := by
  obtain ⟨w, hw, rfl⟩ := Option.map_eq_some_iff.mp h
  have hm := List.mem_of_find?_eq_some hw
  have hp : w.1 = pin := by simpa using List.find?_some hw
  rw [← hp]
  simpa using hm

/-- A line that is low stays so until a write raises it. -/
theorem lastLevel_low_append {pin : Pin} {ws ws' : List PinWrite}
    (h : lastLevel pin ws = some .low) (hno : (pin, Level.high) ∉ ws') :
    lastLevel pin (ws ++ ws') = some .low := by
  rw [lastLevel_append, h]
  cases hl : lastLevel pin ws' with
  | none => rfl
  | some level =>
    cases level with
    | low => rfl
    | high => exact absurd (mem_of_lastLevel hl) hno

theorem lastLevel_of_append {pin : Pin} {level : Level} {ws ws' : List PinWrite}
    (h : lastLevel pin (ws ++ ws') = some level) (hno : (pin, level) ∉ ws') :
    lastLevel pin ws = some level := by
  rw [lastLevel_append] at h
  cases hl : lastLevel pin ws' with
  | none => rwa [hl, Option.none_or] at h
  | some last =>
    rw [hl, Option.some_or] at h
    exact absurd (mem_of_lastLevel (hl.trans h)) hno

theorem lastLevel_eq_none_iff (pin : Pin) (ws : List PinWrite) :
    lastLevel pin ws = none ↔ ∀ w ∈ ws, w.1 ≠ pin := by
  simp [lastLevel]

/-- Where each line is written once, its level is the one written. -/
theorem lastLevel_of_nodup {ws : List PinWrite} {w : PinWrite} (hnd : (ws.map Prod.fst).Nodup)
    (hw : w ∈ ws) : lastLevel w.1 ws = some w.2 := by
  cases hl : lastLevel w.1 ws with
  | none => exact absurd rfl ((lastLevel_eq_none_iff w.1 ws).mp hl w hw)
  | some level =>
    have heq : (w.1, level) = w :=
      List.inj_on_of_nodup_map hnd (mem_of_lastLevel hl) hw rfl
    rw [← heq]

end HotFire
