import HotFire.Clock.Manual

/-! Sleeping for a period on a clock whose sleeps end early. On a clock that never goes
back, and that gains by each sleep, the sleep ends, and no sooner than its deadline. -/

namespace HotFire

namespace Clock

variable {σ : Type} {c : Clock σ} {deadline naps : Nat} {s s' : σ} {taken : List Nap}

theorem sleepUntil_of_due (h : deadline ≤ c.time s) (naps : Nat) :
    c.sleepUntil deadline naps s = some ([], c.look s) := by
  have hdue : remaining? deadline (c.time s) = none := if_pos h
  cases naps <;> rw [sleepUntil, hdue]

theorem sleepUntil_zero (h : c.time s < deadline) : c.sleepUntil deadline 0 s = none := by
  have hearly : remaining? deadline (c.time s) = some (deadline - c.time s) :=
    if_neg (Nat.not_le.mpr h)
  rw [sleepUntil, hearly]

theorem sleepUntil_succ (h : c.time s < deadline) (naps : Nat) :
    c.sleepUntil deadline (naps + 1) s =
      (c.sleepUntil deadline naps (c.sleep (c.look s) (deadline - c.time s))).map fun r =>
        (⟨c.time s, deadline - c.time s⟩ :: r.1, r.2) := by
  have hearly : remaining? deadline (c.time s) = some (deadline - c.time s) :=
    if_neg (Nat.not_le.mpr h)
  rw [sleepUntil, hearly]

/-- A sleep with no bound on its naps: look at the clock, and ask for what is left as long
as something is. -/
inductive SleptUntil (c : Clock σ) (deadline : Nat) : σ → List Nap → σ → Prop
  | due {s : σ} (h : deadline ≤ c.time s) : SleptUntil c deadline s [] (c.look s)
  | nap {s s' : σ} {taken : List Nap} (h : c.time s < deadline)
      (rest : SleptUntil c deadline (c.sleep (c.look s) (deadline - c.time s)) taken s') :
      SleptUntil c deadline s (⟨c.time s, deadline - c.time s⟩ :: taken) s'

/-- The bound on the naps does nothing else than end a sleep that takes more. -/
theorem sleepUntil_eq_some_iff :
    c.sleepUntil deadline naps s = some (taken, s') ↔
      c.SleptUntil deadline s taken s' ∧ taken.length ≤ naps := by
  constructor
  · intro h
    induction naps generalizing s taken with
    | zero =>
      by_cases hdue : deadline ≤ c.time s
      · rw [sleepUntil_of_due hdue] at h
        cases h
        exact ⟨.due hdue, Nat.le_refl 0⟩
      · rw [sleepUntil_zero (Nat.not_le.mp hdue)] at h
        cases h
    | succ naps ih =>
      by_cases hdue : deadline ≤ c.time s
      · rw [sleepUntil_of_due hdue] at h
        cases h
        exact ⟨.due hdue, Nat.zero_le _⟩
      · have hearly := Nat.not_le.mp hdue
        rw [sleepUntil_succ hearly] at h
        obtain ⟨⟨rest, t⟩, hrest, he⟩ := Option.map_eq_some_iff.mp h
        cases he
        obtain ⟨hslept, hlen⟩ := ih hrest
        exact ⟨.nap hearly hslept, Nat.succ_le_succ hlen⟩
  · rintro ⟨hslept, hlen⟩
    induction hslept generalizing naps with
    | due hdue => exact sleepUntil_of_due hdue naps
    | nap hearly _ ih =>
      obtain ⟨naps, rfl⟩ : ∃ n, naps = n + 1 := ⟨naps - 1, by simp at hlen; omega⟩
      rw [sleepUntil_succ hearly, ih (Nat.le_of_succ_le_succ hlen)]
      rfl

/-- The surroundings after naps, each of them taken after a look at the clock. -/
def rested (c : Clock σ) (s : σ) (taken : List Nap) : σ :=
  taken.foldl (fun t nap => c.sleep (c.look t) nap.length) s

theorem SleptUntil.rested (h : c.SleptUntil deadline s taken s') :
    s' = c.look (c.rested s taken) := by
  induction h with
  | due => rfl
  | nap _ _ ih => exact ih

/-- A nap is asked for at the reading that the naps before it lead to, and for what that
reading leaves. -/
theorem SleptUntil.asks_remaining (h : c.SleptUntil deadline s taken s') {before after : List Nap}
    {nap : Nap} (htaken : taken = before ++ nap :: after) :
    nap.asked = c.time (c.rested s before) ∧ 0 < nap.length ∧
      nap.asked + nap.length = deadline := by
  induction h generalizing before with
  | due => simp at htaken
  | @nap s s' taken hearly rest ih =>
    cases before with
    | nil =>
      obtain ⟨rfl, -⟩ := List.cons.inj htaken
      exact ⟨rfl, Nat.sub_pos_of_lt hearly, Nat.add_sub_cancel' (Nat.le_of_lt hearly)⟩
    | cons first before =>
      obtain ⟨rfl, hrest⟩ := List.cons.inj htaken
      exact ih hrest

/-- A clock that never goes back. Time may pass at a reading too, and a sleep passes at
least one nanosecond, however much it is asked for. -/
structure Forward (c : Clock σ) : Prop where
  look : ∀ s, c.time s ≤ c.time (c.look s)
  sleep : ∀ s d, 0 < d → c.time s < c.time (c.sleep s d)

theorem Forward.lt_nap (hc : c.Forward) (h : c.time s < deadline) :
    c.time s < c.time (c.sleep (c.look s) (deadline - c.time s)) :=
  Nat.lt_of_le_of_lt (hc.look s) (hc.sleep _ _ (Nat.sub_pos_of_lt h))

/-- The time left shrinks with every nap, so that the loop comes to an end. -/
theorem Forward.exists_sleptUntil (hc : c.Forward) (deadline : Nat) (s : σ) :
    ∃ taken s', c.SleptUntil deadline s taken s' := by
  induction hleft : deadline - c.time s using Nat.strongRecOn generalizing s with
  | ind left ih =>
    by_cases hdue : deadline ≤ c.time s
    · exact ⟨[], _, .due hdue⟩
    · have hearly := Nat.not_le.mp hdue
      have hgain := hc.lt_nap hearly
      obtain ⟨taken, s', hrest⟩ :=
        ih (deadline - c.time (c.sleep (c.look s) (deadline - c.time s))) (by omega) _ rfl
      exact ⟨_, s', .nap hearly hrest⟩

theorem SleptUntil.length_le (hc : c.Forward) (h : c.SleptUntil deadline s taken s') :
    taken.length ≤ deadline - c.time s := by
  induction h with
  | due => exact Nat.zero_le _
  | nap hearly _ ih =>
    have hgain := hc.lt_nap hearly
    rw [List.length_cons]
    omega

theorem SleptUntil.le_time (hc : c.Forward) (h : c.SleptUntil deadline s taken s') :
    deadline ≤ c.time s' := by
  induction h with
  | due hdue => exact Nat.le_trans hdue (hc.look _)
  | nap _ _ ih => exact ih

/-- On a clock that passes no more than it is asked for, and only then, a sleep ends on
time. -/
theorem SleptUntil.time_eq (h : c.SleptUntil deadline s taken s')
    (hlook : ∀ t, c.time (c.look t) = c.time t)
    (hsleep : ∀ t d, 0 < d → c.time (c.sleep t d) ≤ c.time t + d) (hs : c.time s ≤ deadline) :
    c.time s' = deadline := by
  induction h with
  | due hdue => exact (hlook _).trans (Nat.le_antisymm hs hdue)
  | @nap s s' taken hearly _ ih =>
    refine ih ?_
    have hnap := hsleep (c.look s) (deadline - c.time s) (Nat.sub_pos_of_lt hearly)
    rw [hlook] at hnap
    omega

theorem Forward.sleptUntil_naps (hc : c.Forward) {period : Nat}
    (h : c.SleptUntil (c.time s + period) (c.look s) taken s') : taken.length ≤ period := by
  have hlook := hc.look s
  have hlen := h.length_le hc
  omega

theorem Forward.sleepAtLeast_returns (hc : c.Forward) (period : Nat) (s : σ) :
    ∃ taken s', c.sleepAtLeast period s = some (taken, s') := by
  obtain ⟨taken, s', h⟩ := hc.exists_sleptUntil (c.time s + period) (c.look s)
  exact ⟨taken, s', sleepUntil_eq_some_iff.mpr ⟨h, hc.sleptUntil_naps h⟩⟩

theorem Forward.le_of_sleepAtLeast (hc : c.Forward) {period : Nat}
    (h : c.sleepAtLeast period s = some (taken, s')) : c.time s + period ≤ c.time s' :=
  (sleepUntil_eq_some_iff.mp h).1.le_time hc

/-- On a clock that never goes back, a sleep for a period comes to an end, after no more
naps than it has nanoseconds, and allowing it more changes nothing. Each nap is positive
and is all that its reading leaves of the period, which is over at the end; a period of
zero takes no nap; and if time passes in naps alone, and never more than was asked for,
the sleep ends exactly on time. -/
theorem Forward.sleeps_for_period (hc : c.Forward) (period : Nat) (s : σ) :
    ∃ taken s', c.sleepAtLeast period s = some (taken, s') ∧ taken.length ≤ period ∧
      (∀ naps, period ≤ naps →
        c.sleepUntil (c.time s + period) naps (c.look s) = some (taken, s')) ∧
      s' = c.look (c.rested (c.look s) taken) ∧
      (∀ before nap after, taken = before ++ nap :: after →
        nap.asked = c.time (c.rested (c.look s) before) ∧ 0 < nap.length ∧
          nap.asked + nap.length = c.time s + period) ∧
      c.time s + period ≤ c.time s' ∧
      (period = 0 → taken = []) ∧
      ((∀ t, c.time (c.look t) = c.time t) →
        (∀ t d, 0 < d → c.time (c.sleep t d) ≤ c.time t + d) →
          c.time s' = c.time s + period) := by
  obtain ⟨taken, s', hreturns⟩ := hc.sleepAtLeast_returns period s
  have hslept : c.SleptUntil (c.time s + period) (c.look s) taken s' :=
    (sleepUntil_eq_some_iff.mp hreturns).1
  have hnaps := hc.sleptUntil_naps hslept
  refine ⟨taken, s', hreturns, hnaps, ?_, hslept.rested, ?_, hslept.le_time hc, ?_, ?_⟩
  · intro naps hmore
    exact sleepUntil_eq_some_iff.mpr ⟨hslept, Nat.le_trans hnaps hmore⟩
  · intro before nap after htaken
    exact hslept.asks_remaining htaken
  · intro hzero
    exact List.length_eq_zero_iff.mp (Nat.le_zero.mp (hzero ▸ hnaps))
  · intro hlook hsleep
    exact hslept.time_eq hlook hsleep (by rw [hlook]; exact Nat.le_add_right _ _)

/-- Ten nanoseconds from the third on, on a clock whose sleeps last half as long as asked. -/
theorem Forward.sleeps_for_period_of_halves :
    let c := shortSleeper 2
    c.Forward ∧ (∀ t, c.time (c.look t) = c.time t) ∧
      (∀ t d, 0 < d → c.time (c.sleep t d) ≤ c.time t + d) ∧
      ∃ taken s', c.sleepAtLeast 10 3 = some (taken, s') ∧
        taken = [⟨3, 10⟩, ⟨8, 5⟩, ⟨10, 3⟩, ⟨11, 2⟩, ⟨12, 1⟩] ∧ c.time s' = 13 := by
  intro c
  have hlook : ∀ t, c.time (c.look t) = c.time t := fun _ => rfl
  have hsleep : ∀ t d, 0 < d → c.time (c.sleep t d) ≤ c.time t + d := by
    intro t d hd
    exact Nat.add_le_add_left (Nat.max_le.mpr ⟨Nat.div_le_self d 2, hd⟩) t
  have hc : c.Forward := by
    refine ⟨fun _ => Nat.le_refl _, fun t d _ => ?_⟩
    exact Nat.lt_add_of_pos_right (Nat.le_max_right (d / 2) 1)
  obtain ⟨taken, s', hreturns, -, -, -, -, -, -, hontime⟩ := hc.sleeps_for_period 10 3
  have hruns : c.sleepAtLeast 10 3 =
      some ([⟨3, 10⟩, ⟨8, 5⟩, ⟨10, 3⟩, ⟨11, 2⟩, ⟨12, 1⟩], 13) := by decide
  have htaken := congrArg Prod.fst (Option.some.inj (hreturns.symm.trans hruns))
  exact ⟨hc, hlook, hsleep, taken, s', hreturns, htaken, hontime hlook hsleep⟩

end Clock

end HotFire
