import HotFire.Clock.Manual
import Mathlib.Data.List.Chain

/-! When a clock that is moved by hand goes back. A span is cut down to what the count can hold,
but not to what is left of it. -/

namespace HotFire

theorem toNat_saturateNanos (n : Nat) : (saturateNanos n).toNat = min n maxNanos := by
  have hlt : min n maxNanos < UInt64.size :=
    Nat.lt_of_le_of_lt (Nat.min_le_right n maxNanos) (by decide)
  exact UInt64.toNat_ofNat_of_lt hlt

namespace ManualClock

/-- What can be done with a clock. Its clones share one count, so that it does not matter which
of them is asked. -/
inductive Call where
  | advance (span : Nat)
  | sleep (span : Nat)
  | set (time : Nat)
  deriving DecidableEq, Repr

def act (c : ManualClock) : Call → ManualClock
  | .advance span => c.advance span
  | .sleep span => clock.sleep c span
  | .set time => c.set time

def after (c : ManualClock) (calls : List Call) : ManualClock := calls.foldl act c

/-- What the clock reads before the first call and after each. -/
def readings (c : ManualClock) : List Call → List Nat
  | [] => [c.elapsed]
  | call :: calls => c.elapsed :: readings (c.act call) calls

/-- Where a call would take a count that has no end. -/
def endless (t : Nat) : Call → Nat
  | .advance span | .sleep span => t + min span maxNanos
  | .set time => max t (min time maxNanos)

theorem le_endless (t : Nat) (call : Call) : t ≤ endless t call := by
  cases call with
  | advance span | sleep span => exact Nat.le_add_right t _
  | set time => exact Nat.le_max_left t _

theorem le_foldl_endless (t : Nat) (calls : List Call) : t ≤ calls.foldl endless t := by
  induction calls generalizing t with
  | nil => exact le_rfl
  | cons call calls ih => exact (le_endless t call).trans (ih (endless t call))

theorem elapsed_le (c : ManualClock) : c.elapsed ≤ maxNanos := Nat.le_of_lt_succ c.nanos.toNat_lt

theorem elapsed_advance (c : ManualClock) (span : Nat) :
    (c.advance span).elapsed = (c.elapsed + min span maxNanos) % UInt64.size := by
  rw [elapsed, advance, UInt64.toNat_add, toNat_saturateNanos]
  rfl

theorem elapsed_set (c : ManualClock) (time : Nat) :
    (c.set time).elapsed = max c.elapsed (min time maxNanos) := by
  have hle : c.nanos ≤ saturateNanos time ↔ c.elapsed ≤ min time maxNanos := by
    rw [UInt64.le_iff_toNat_le, toNat_saturateNanos, elapsed]
  change (if c.nanos ≤ saturateNanos time then saturateNanos time else c.nanos).toNat = _
  rw [max_def]
  by_cases h : c.elapsed ≤ min time maxNanos
  · rw [if_pos (hle.mpr h), if_pos h, toNat_saturateNanos]
  · rw [if_neg (hle.not.mpr h), if_neg h]
    rfl

/-- The clock reads the endless count modulo its own size. -/
theorem elapsed_act (c : ManualClock) (call : Call) :
    (c.act call).elapsed = endless c.elapsed call % UInt64.size := by
  cases call with
  | advance span => exact c.elapsed_advance span
  | sleep span => exact c.elapsed_advance span
  | set time =>
    have hle : endless c.elapsed (.set time) ≤ maxNanos :=
      Nat.max_le.mpr ⟨c.elapsed_le, Nat.min_le_right time maxNanos⟩
    exact (c.elapsed_set time).trans (Nat.mod_eq_of_lt (Nat.lt_succ_of_le hle)).symm

theorem elapsed_act_of_le {c : ManualClock} {call : Call} (h : endless c.elapsed call ≤ maxNanos) :
    (c.act call).elapsed = endless c.elapsed call := by
  rw [elapsed_act]
  exact Nat.mod_eq_of_lt (Nat.lt_succ_of_le h)

/-- A count that is full goes round, and by less than a whole turn. -/
theorem elapsed_act_lt {c : ManualClock} {call : Call} (h : maxNanos < endless c.elapsed call) :
    (c.act call).elapsed < c.elapsed := by
  have hsize : UInt64.size = maxNanos + 1 := rfl
  have hnow := c.elapsed_le
  have hturn : endless c.elapsed call ≤ c.elapsed + maxNanos := by
    cases call with
    | advance span | sleep span => exact Nat.add_le_add_left (Nat.min_le_right span maxNanos) _
    | set time => exact Nat.max_le.mpr ⟨by omega, by omega⟩
  rw [elapsed_act, Nat.mod_eq_sub_mod (by omega), Nat.mod_eq_of_lt (by omega)]
  omega

theorem head?_readings (c : ManualClock) (calls : List Call) :
    (c.readings calls).head? = some c.elapsed := by
  cases calls with
  | nil => rfl
  | cons call calls => rfl

/-- The readings never decrease exactly when the calls lead to no more than the largest count:
then the last of them is where a count without end would be, and else some call went back. -/
theorem readings_never_decrease_iff (c : ManualClock) (calls : List Call) :
    ((c.readings calls).IsChain (· ≤ ·) ↔ calls.foldl endless c.elapsed ≤ maxNanos) ∧
      (calls.foldl endless c.elapsed ≤ maxNanos →
        (c.after calls).elapsed = calls.foldl endless c.elapsed) := by
  induction calls generalizing c with
  | nil => exact ⟨iff_of_true (List.isChain_singleton _) c.elapsed_le, fun _ => rfl⟩
  | cons call calls ih =>
    rw [readings, List.isChain_cons, head?_readings, List.foldl_cons]
    by_cases h : endless c.elapsed call ≤ maxNanos
    · have hact := elapsed_act_of_le h
      have hrest := ih (c.act call)
      rw [hact] at hrest ⊢
      refine ⟨⟨fun hchain => hrest.1.mp hchain.2, fun hend => ⟨?_, hrest.1.mpr hend⟩⟩, hrest.2⟩
      intro next hnext
      rw [← Option.some.inj hnext]
      exact le_endless c.elapsed call
    · have hback := elapsed_act_lt (Nat.lt_of_not_le h)
      have hfar : ¬ calls.foldl endless (endless c.elapsed call) ≤ maxNanos :=
        fun hend => h ((le_foldl_endless _ calls).trans hend)
      refine ⟨iff_of_false (fun hchain => ?_) hfar, fun hend => absurd hend hfar⟩
      exact Nat.not_le_of_lt hback (hchain.1 _ rfl)

/-- A full count falls back to zero. -/
theorem readings_decrease_of_wrap :
    ({} : ManualClock).readings [.sleep maxNanos, .advance 1] = [0, maxNanos, 0] ∧
      ¬ (({} : ManualClock).readings [.sleep maxNanos, .advance 1]).IsChain (· ≤ ·) := by
  decide

end ManualClock
end HotFire
