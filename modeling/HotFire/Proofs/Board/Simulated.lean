import HotFire.Board.Simulated
import Mathlib.Data.Nat.Count

/-! A simulated converter under calls without end. A sensor reads the value set for it, or
else the counter that all sensors share, and nothing but such a read moves the counter. -/

namespace HotFire

theorem Sensor.ofId?_id (s : Sensor) : ofId? s.id.toNat = some s := by cases s <;> rfl

theorem Sensor.id_inj {s t : Sensor} : s.id.toNat = t.id.toNat ↔ s = t := by
  constructor
  · intro h
    have hs := ofId?_id s
    rw [h, ofId?_id t] at hs
    exact (Option.some.inj hs).symm
  · rintro rfl
    rfl

namespace SimulatedConverter

theorem word_store (c : SimulatedConverter) (s t : Sensor) (word : UInt32) :
    (c.store s word).word t = if t = s then word else c.word t := by
  have hget : (c.store s word).word t =
      if s.id.toNat = t.id.toNat then word else c.word t :=
    Vector.getElem_set s.id_lt t.id_lt
  rw [hget]
  simp only [Sensor.id_inj, eq_comm]

theorem injected?_of_word {c c' : SimulatedConverter} {s t : Sensor} (h : c.word s = c'.word t) :
    c.injected? s = c'.injected? t := by
  rw [injected?, injected?, h]

theorem injected?_set (c : SimulatedConverter) (s t : Sensor) (raw : UInt16) :
    (c.set s raw).injected? t = if t = s then some raw else c.injected? t := by
  have hword : (c.set s raw).word t = if t = s then raw.toUInt32 else c.word t :=
    c.word_store s t raw.toUInt32
  by_cases h : t = s
  · rw [if_pos h] at hword ⊢
    have hfits : raw.toUInt32.toNat < UInt16.size := raw.toNat_lt
    rw [injected?, hword, if_pos hfits, UInt16.toUInt16_toUInt32]
  · rw [if_neg h] at hword ⊢
    exact injected?_of_word hword

theorem injected?_clear (c : SimulatedConverter) (s t : Sensor) :
    (c.clear s).injected? t = if t = s then none else c.injected? t := by
  have hword : (c.clear s).word t = if t = s then unset else c.word t := c.word_store s t unset
  by_cases h : t = s
  · rw [if_pos h] at hword ⊢
    have hlarge : ¬ unset.toNat < UInt16.size := by decide
    rw [injected?, hword, if_neg hlarge]
  · rw [if_neg h] at hword ⊢
    exact injected?_of_word hword

theorem injected?_new (s : Sensor) : ({} : SimulatedConverter).injected? s = none := by
  cases s <;> rfl

theorem read_of_injected {c : SimulatedConverter} {s : Sensor} {raw : UInt16}
    (h : c.injected? s = some raw) : c.read s = (raw, c) := by
  rw [read, h]

theorem read_of_none {c : SimulatedConverter} {s : Sensor} (h : c.injected? s = none) :
    c.read s = (c.counter &&& 0x0FFF, { c with counter := c.counter + 1 }) := by
  rw [read, h]

inductive Call where
  | set (s : Sensor) (raw : UInt16)
  | clear (s : Sensor)
  | read (s : Sensor)
  deriving DecidableEq, Repr

def act (c : SimulatedConverter) : Call → SimulatedConverter
  | .set s raw => c.set s raw
  | .clear s => c.clear s
  | .read s => (c.read s).2

/-- Whether a call is answered by the counter. -/
def counts (c : SimulatedConverter) : Call → Bool
  | .read s => (c.injected? s).isNone
  | .set _ _ | .clear _ => false

theorem injected?_read (c : SimulatedConverter) (s t : Sensor) :
    (c.read s).2.injected? t = c.injected? t := by
  cases h : c.injected? s with
  | some raw => rw [read_of_injected h]
  | none =>
    rw [read_of_none h]
    rfl

theorem counter_act (c : SimulatedConverter) (call : Call) :
    (c.act call).counter = if c.counts call then c.counter + 1 else c.counter := by
  cases call with
  | set s raw => rfl
  | clear s => rfl
  | read s =>
    cases h : c.injected? s with
    | some raw => simp [act, counts, read_of_injected h, h]
    | none => simp [act, counts, read_of_none h, h]

/-- The converter that call `n` finds. -/
def before (calls : Nat → Call) : Nat → SimulatedConverter
  | 0 => {}
  | n + 1 => (before calls n).act (calls n)

/-- At call `n`, `raw` is the last value set for `s`, and no clear of `s` came later. -/
def LastSet (calls : Nat → Call) (s : Sensor) (raw : UInt16) (n : Nat) : Prop :=
  ∃ i < n, calls i = .set s raw ∧
    ∀ j < n, i < j → calls j ≠ .clear s ∧ ∀ other, calls j ≠ .set s other

/-- Call `n` reads a sensor that no value is set for. -/
def ReadsCounter (calls : Nat → Call) (n : Nat) : Prop :=
  ∃ s, calls n = .read s ∧ ∀ raw, ¬ LastSet calls s raw n

variable {calls : Nat → Call} {s : Sensor} {raw : UInt16} {n : Nat}

theorem not_lastSet_zero : ¬ LastSet calls s raw 0 := by
  rintro ⟨i, hi, -⟩
  exact Nat.not_lt_zero i hi

theorem lastSet_succ_iff :
    LastSet calls s raw (n + 1) ↔ calls n = .set s raw ∨
      LastSet calls s raw n ∧ calls n ≠ .clear s ∧ ∀ other, calls n ≠ .set s other := by
  constructor
  · rintro ⟨i, hi, hset, hsince⟩
    rcases Nat.lt_or_eq_of_le (Nat.le_of_lt_succ hi) with hlt | rfl
    · refine .inr ⟨⟨i, hlt, hset, ?_⟩, hsince n (Nat.lt_succ_self n) hlt⟩
      exact fun j hj => hsince j (Nat.lt_succ_of_lt hj)
    · exact .inl hset
  · rintro (hset | ⟨⟨i, hi, hset, hsince⟩, hlast⟩)
    · refine ⟨n, Nat.lt_succ_self n, hset, ?_⟩
      intro j hj hlt
      omega
    · refine ⟨i, Nat.lt_succ_of_lt hi, hset, ?_⟩
      intro j hj hlt
      rcases Nat.lt_or_eq_of_le (Nat.le_of_lt_succ hj) with hjn | rfl
      · exact hsince j hjn hlt
      · exact hlast

/-- A word of the converter holds the value set last, and is unset after a clear. -/
theorem injected?_before_iff :
    (before calls n).injected? s = some raw ↔ LastSet calls s raw n := by
  induction n with
  | zero => simp [before, injected?_new, not_lastSet_zero]
  | succ n ih =>
    rw [lastSet_succ_iff, ← ih, before]
    cases hcall : calls n with
    | set t other =>
      rw [act, injected?_set]
      by_cases h : s = t
      · simp [h]
      · simp [h, Ne.symm h]
    | clear t =>
      rw [act, injected?_clear]
      by_cases h : s = t
      · simp [h]
      · simp [h, Ne.symm h]
    | read t =>
      rw [act, injected?_read]
      simp

theorem injected?_before_eq_none_iff :
    (before calls n).injected? s = none ↔ ∀ raw, ¬ LastSet calls s raw n := by
  simp only [Option.eq_none_iff_forall_ne_some, ne_eq, injected?_before_iff]

theorem counts_before_iff :
    (before calls n).counts (calls n) = true ↔ ReadsCounter calls n := by
  rw [ReadsCounter]
  cases hcall : calls n with
  | set t other => simp [counts]
  | clear t => simp [counts]
  | read t => simp [counts, injected?_before_eq_none_iff]

instance : DecidablePred (ReadsCounter calls) := fun _ => decidable_of_iff _ counts_before_iff

/-- The counter is the number of the reads that it answered, in sixteen bits. -/
theorem counter_before (calls : Nat → Call) (n : Nat) :
    (before calls n).counter.toNat = Nat.count (ReadsCounter calls) n % UInt16.size := by
  induction n with
  | zero => rfl
  | succ n ih =>
    rw [before, counter_act, Nat.count_succ]
    by_cases h : ReadsCounter calls n
    · rw [if_pos (counts_before_iff.mpr h), if_pos h, UInt16.toNat_add, ih]
      exact Nat.mod_add_mod _ _ _
    · rw [if_neg (mt counts_before_iff.mp h), if_neg h, ih, Nat.add_zero]

theorem low_bits (counter : UInt16) : (counter &&& 0x0FFF).toNat = counter.toNat % 4096 := by
  rw [UInt16.toNat_and]
  exact Nat.and_two_pow_sub_one_eq_mod counter.toNat 12

/-- After any calls a sensor reads the last value set for it, if no clear of it came later,
and the read changes nothing. Otherwise it reads, in twelve bits, how many reads of all
sensors the counter has answered before. -/
theorem reads_value_or_counter (calls : Nat → Call) (n : Nat) (s : Sensor) :
    let c := before calls n
    (∀ raw, LastSet calls s raw n → c.read s = (raw, c)) ∧
      ((∀ raw, ¬ LastSet calls s raw n) →
        (c.read s).1.toNat = Nat.count (ReadsCounter calls) n % 4096) := by
  intro c
  constructor
  · intro raw hset
    exact read_of_injected (injected?_before_iff.mpr hset)
  · intro hunset
    have hdvd : 4096 ∣ UInt16.size := by decide
    rw [read_of_none (injected?_before_eq_none_iff.mpr hunset), low_bits, counter_before,
      Nat.mod_mod_of_dvd _ hdvd]

/-- A value set for one sensor holds back neither the counter nor another sensor. -/
example :
    let calls : Nat → Call := fun n =>
      [.read .pt1, .set .pt1 361, .read .pt1, .read .tc2, .clear .pt1].getD n (.read .pt1)
    (List.range 8).map (fun n => ((before calls n).read .pt1).1) = [0, 1, 361, 361, 361, 2, 3, 4] := by
  decide

end SimulatedConverter

end HotFire
