import HotFire.Proofs.Clock.Manual
import HotFire.Proofs.Clock.Pacing
import HotFire.Proofs.Sampling.Stream
import Mathlib.Data.List.Chain
import Mathlib.Data.List.Range

/-! The pace of a sampling loop. A tick sleeps for the period of the group before its
pass, so two samples of a slot are never closer than that, however early sleeps end and
whatever passes between two readings of the clock. -/

namespace HotFire

theorem saturateNanos_gap {t t' gap : Nat} (h : t + gap ≤ t') :
    min ((saturateNanos t).toNat + gap) maxNanos ≤ (saturateNanos t').toNat := by
  rw [toNat_saturateNanos, toNat_saturateNanos]
  omega

namespace SamplingLoop

variable {σ : Type} {c : Clock σ}

theorem length_passTimes (c : Clock σ) (n : Nat) (s : σ) : (passTimes c n s).1.length = n := by
  induction n generalizing s with
  | zero => rfl
  | succ n ih => exact congrArg (· + 1) (ih (c.look s))

theorem le_passTimes (hc : c.Forward) (n : Nat) (s : σ) :
    c.time s ≤ c.time (passTimes c n s).2 := by
  induction n generalizing s with
  | zero => exact Nat.le_refl _
  | succ n ih => exact Nat.le_trans (hc.look s) (ih (c.look s))

theorem passTimes_between (hc : c.Forward) {n : Nat} {s : σ} {t : Nat}
    (ht : t ∈ (passTimes c n s).1) : c.time s ≤ t ∧ t ≤ c.time (passTimes c n s).2 := by
  induction n generalizing s with
  | zero => cases ht
  | succ n ih =>
    rcases List.mem_cons.mp ht with rfl | ht
    · exact ⟨Nat.le_refl _, Nat.le_trans (hc.look s) (le_passTimes hc n (c.look s))⟩
    · obtain ⟨hfrom, hto⟩ := ih ht
      exact ⟨Nat.le_trans (hc.look s) hfrom, hto⟩

theorem tickTimes_returns (hc : c.Forward) (l : SamplingLoop) (s : σ) :
    ∃ times s', l.tickTimes c s = some (times, s') ∧ times.length = l.slots.length := by
  obtain ⟨taken, s', h⟩ := hc.sleepAtLeast_returns l.period s
  exact ⟨_, _, by rw [tickTimes, h]; rfl, length_passTimes c l.slots.length s'⟩

theorem tickTimes_between (hc : c.Forward) {l : SamplingLoop} {s s' : σ} {times : List Nat}
    (h : l.tickTimes c s = some (times, s')) {t : Nat} (ht : t ∈ times) :
    c.time s + l.period ≤ t ∧ t ≤ c.time s' := by
  obtain ⟨⟨taken, awake⟩, hsleep, hpass⟩ := Option.map_eq_some_iff.mp h
  have hpass : passTimes c l.slots.length awake = (times, s') := hpass
  have ht' : t ∈ (passTimes c l.slots.length awake).1 := by rwa [hpass]
  obtain ⟨hfrom, hto⟩ := passTimes_between hc ht'
  rw [hpass] at hto
  exact ⟨Nat.le_trans (hc.le_of_sleepAtLeast hsleep) hfrom, hto⟩

end SamplingLoop

namespace Feed

variable {σ : Type} {c : Clock σ} {f : Feed} {start : Nat → σ} {n : Nat}

theorem before_period (f : Feed) (k : Nat) : (f.before k).period = f.group.period := by
  induction k with
  | zero => rfl
  | succ k ih => exact ih

/-- The first `n` passes are ticks on a clock. Tick `k` begins in the surroundings
`start k`, and time may pass between its end and the next. -/
def Ticks (f : Feed) (c : Clock σ) (start : Nat → σ) (n : Nat) : Prop :=
  ∀ k < n, ∃ s', (f.before k).tickTimes c (start k) = some ((f.round k).map (·.time), s') ∧
    c.time s' ≤ c.time (start (k + 1))

theorem Ticks.gap (hc : c.Forward) (h : f.Ticks c start n) {i k : Nat} (hi : i < f.width)
    (hk : k + 1 < n) :
    (f.conversion k i).time + f.group.period ≤ (f.conversion (k + 1) i).time := by
  have hmem : ∀ k, (f.conversion k i).time ∈ (f.round k).map (·.time) := fun k =>
    List.mem_map_of_mem (List.mem_map_of_mem (List.mem_range.mpr hi))
  obtain ⟨s', hfirst, hidle⟩ := h k (Nat.lt_of_succ_lt hk)
  obtain ⟨s'', hsecond, -⟩ := h (k + 1) hk
  have hto := (SamplingLoop.tickTimes_between hc hfirst (hmem k)).2
  have hfrom := (SamplingLoop.tickTimes_between hc hsecond (hmem (k + 1))).1
  rw [f.before_period] at hfrom
  omega

theorem Ticks.sampled_gaps (hc : c.Forward) (h : f.Ticks c start n) {i : Nat}
    (hi : i < f.width) :
    (f.sampled i n).IsChain fun a b =>
      min (a.timestamp.toNat + f.group.period) maxNanos ≤ b.timestamp.toNat := by
  rw [sampled_eq, List.isChain_map, List.isChain_range]
  intro k hk
  exact saturateNanos_gap (h.gap hc hi (by omega))

/-- The period is a lower bound. A loop that ticks on a clock that never goes back can
always tick once more, and two samples of a slot in turn are a period apart or more: so
are the timestamps that its frames carry out and those that wait, from one frame to the
next as within one, up to the end of the count. -/
theorem samples_keep_period (hc : c.Forward) (f : Feed) (start : Nat → σ) (n : Nat)
    (h : f.Ticks c start n) :
    (∃ times s', (f.before n).tickTimes c (start n) = some (times, s') ∧
        times.length = f.width) ∧
      ∀ i spec, f.group.sensors[i]? = some spec →
        (∀ k, k + 1 < n →
          (f.conversion k i).time + f.group.period ≤ (f.conversion (k + 1) i).time) ∧
        ∃ (slot : SampleSlot) (batches : List (List Item)),
          (f.before n).slots[i]? = some slot ∧
          f.handed i n = batches.map (Frame.bytes spec.sensor.id) ∧
          batches.flatten ++ slot.buffer.toList = f.sampled i n ∧
          (batches.flatten ++ slot.buffer.toList).IsChain fun a b =>
            min (a.timestamp.toNat + f.group.period) maxNanos ≤ b.timestamp.toNat := by
  constructor
  · rw [← f.length_slots n]
    exact SamplingLoop.tickTimes_returns hc (f.before n) (start n)
  · intro i spec hspec
    have hi : i < f.width := (List.getElem?_eq_some_iff.mp hspec).1
    obtain ⟨slot, batches, hslot, -, hstreams, hhanded⟩ := f.streams i n hspec
    refine ⟨fun k hk => h.gap hc hi hk, slot, batches, hslot, hhanded, hstreams.joined, ?_⟩
    rw [hstreams.joined]
    exact h.sampled_gaps hc hi

/-- Two transducers every four nanoseconds, on a clock that takes one for each reading
and wakes after one from each sleep, past the first frames. -/
theorem samples_keep_period_past_flush :
    let c : Clock Nat := ⟨id, (· + 1), fun now _ => now + 1⟩
    let f : Feed := {
      group := .ofSpecs "PT" 250000000 [.ofSensor .pt1, .ofSensor .pt2]
      shutoffEnabled := false
      conversion := fun k i => { raw := 1361, time := 10 * k + 6 + i }
      flags := fun _ => {} }
    c.Forward ∧ f.Ticks c (10 * ·) 18 ∧ (f.handed 1 18).length = 1 ∧
      (f.conversion 15 1).time + 4 ≤ (f.conversion 16 1).time ∧
      (f.sampled 1 18).IsChain fun a b =>
        min (a.timestamp.toNat + f.group.period) maxNanos ≤ b.timestamp.toNat := by
  intro c f
  have hc : c.Forward := ⟨fun s => Nat.le_succ s, fun s _ _ => Nat.lt_succ_self s⟩
  have hperiod : f.group.period = 4 := by decide
  have htimes : ∀ k < 18, (f.before k).tickTimes c (10 * k) =
      some ((f.round k).map (·.time), 10 * k + 8) := by decide +kernel
  have hticks : f.Ticks c (10 * ·) 18 := fun k hk =>
    ⟨10 * k + 8, htimes k hk, by simp only [c, id]; omega⟩
  have hframe : (f.handed 1 18).length = 1 := by decide +kernel
  obtain ⟨-, hslots⟩ := samples_keep_period hc f (10 * ·) 18 hticks
  obtain ⟨hgap, slot, batches, -, -, hjoined, hchain⟩ := hslots 1 (.ofSensor .pt2) rfl
  rw [hjoined] at hchain
  exact ⟨hc, hticks, hframe, hperiod ▸ hgap 15 (by decide), hchain⟩

end Feed

end HotFire
