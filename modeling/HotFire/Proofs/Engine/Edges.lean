import HotFire.Proofs.Engine.Pulses
import Mathlib.Data.Nat.Find
import Mathlib.Order.Monotone.Basic

/-! The edges of a pulse train under looks at the clock that may come late. The plan
alone fixes when an edge falls due; the train makes it at the first look from then on
that comes after the look of the edge before. -/

namespace HotFire

namespace GitvcPlan

/-- Each pulse opens the valve and closes it. -/
def edgeCount (plan : GitvcPlan) : Nat := 2 * plan.pulses.length

/-- From edge `e` to the next: a pulse, or the gap after one. -/
def span (plan : GitvcPlan) (e : Nat) : Nat :=
  if e % 2 = 0 then plan.pulses.getD (e / 2) 0 else plan.between

/-- When edge `e` falls due, in a train begun at `start`. -/
def due (plan : GitvcPlan) (start : Nat) : Nat → Nat
  | 0 => start + plan.wait
  | e + 1 => plan.due start e + plan.span e

def edge (e : Nat) : PinWrite := (Pin.gitvcValve, if e % 2 = 0 then gitvcOn else gitvcOff)

/-- Where a train stands after `e` edges. -/
def phaseAfter (plan : GitvcPlan) (e : Nat) : PulsePhase :=
  if e = 0 then .waiting
  else if e % 2 = 1 then .on (e / 2)
  else if e < plan.edgeCount then .off (e / 2)
  else .done

/-- Look `k` is the first at or after `deadline`. -/
def FirstLook (looks : Nat → Nat) (deadline k : Nat) : Prop :=
  deadline ≤ looks k ∧ ∀ j < k, looks j < deadline

/-- Edge `e` belongs to look `k`: the first that finds it due or, if later, the one
after the look of the edge before. -/
inductive Falls (plan : GitvcPlan) (start : Nat) (looks : Nat → Nat) : Nat → Nat → Prop
  | first {k : Nat} (h : FirstLook looks (plan.due start 0) k) : Falls plan start looks 0 k
  | next {e j k : Nat} (before : Falls plan start looks e j)
      (h : FirstLook looks (plan.due start (e + 1)) k) :
      Falls plan start looks (e + 1) (max (j + 1) k)

section

variable {plan : GitvcPlan} {start : Nat} {looks : Nat → Nat} {e e' d k k' : Nat}

theorem FirstLook.unique (h : FirstLook looks d k) (h' : FirstLook looks d k') : k = k' := by
  rcases Nat.lt_trichotomy k k' with hlt | heq | hgt
  · exact absurd h.1 (Nat.not_le_of_lt (h'.2 k hlt))
  · exact heq
  · exact absurd h'.1 (Nat.not_le_of_lt (h.2 k' hgt))

theorem exists_firstLook (h : d ≤ looks k) : ∃ j ≤ k, FirstLook looks d j := by
  have hex : ∃ j, d ≤ looks j := ⟨k, h⟩
  refine ⟨Nat.find hex, Nat.find_min' hex h, Nat.find_spec hex, ?_⟩
  intro j hj
  exact Nat.lt_of_not_le (Nat.find_min hex hj)

theorem Falls.unique (h : plan.Falls start looks e k) (h' : plan.Falls start looks e k') :
    k = k' := by
  induction h generalizing k' with
  | first h =>
    cases h' with
    | first h' => exact h.unique h'
  | next before h ih =>
    cases h' with
    | next before' h' => rw [ih before', h.unique h']

theorem Falls.due_le (hclock : Monotone looks) (h : plan.Falls start looks e k) :
    plan.due start e ≤ looks k := by
  cases h with
  | first h => exact h.1
  | next before h => exact Nat.le_trans h.1 (hclock (Nat.le_max_right _ _))

/-- Edges keep their order, one look at least for each. -/
theorem Falls.earlier (h : plan.Falls start looks e k) (hlt : e' < e) :
    ∃ j < k, plan.Falls start looks e' j := by
  induction h with
  | first h => omega
  | @next e j k before h ih =>
    have hj : j < max (j + 1) k := Nat.le_max_left _ _
    by_cases he : e' = e
    · exact ⟨j, hj, he ▸ before⟩
    · obtain ⟨i, hi, hf⟩ := ih (by omega)
      exact ⟨i, Nat.lt_trans hi hj, hf⟩

/-- An edge that is due and is no earlier look's is this look's, once the edge before
it has had a look. -/
theorem falls_of_due (hdue : plan.due start e ≤ looks k)
    (hbefore : ∀ e' < e, ∃ j < k, plan.Falls start looks e' j)
    (hpending : ∀ j, plan.Falls start looks e j → k ≤ j) : plan.Falls start looks e k := by
  obtain ⟨f, hf, hfirst⟩ := exists_firstLook hdue
  have hex : ∃ j ≤ k, plan.Falls start looks e j := by
    cases e with
    | zero => exact ⟨f, hf, .first hfirst⟩
    | succ e =>
      obtain ⟨j, hj, hfalls⟩ := hbefore e (Nat.lt_succ_self e)
      exact ⟨max (j + 1) f, Nat.max_le.mpr ⟨hj, hf⟩, .next hfalls hfirst⟩
  obtain ⟨j, hj, hfalls⟩ := hex
  obtain rfl : j = k := Nat.le_antisymm hj (hpending j hfalls)
  exact hfalls

end

theorem count_openings (e : Nat) :
    ((List.range e).map edge).count (Pin.gitvcValve, gitvcOn) = (e + 1) / 2 := by
  induction e with
  | zero => rfl
  | succ e ih =>
    rw [List.range_succ, List.map_append, List.count_append, ih, List.map_singleton,
      List.count_singleton]
    rcases Nat.mod_two_eq_zero_or_one e with he | he
    · have hopen : edge e = (Pin.gitvcValve, gitvcOn) := by simp [edge, he]
      rw [hopen]
      simp only [beq_self_eq_true, if_true]
      omega
    · have hclose : (edge e == (Pin.gitvcValve, gitvcOn)) = false := by
        simp [edge, he, gitvcOn, gitvcOff]
      rw [hclose]
      simp only [Bool.false_eq_true, if_false]
      omega

end GitvcPlan

namespace PulseTrain

/-- A train for `plan` begun at `start` that has made `e` edges. -/
structure Stands (plan : GitvcPlan) (start e : Nat) (t : PulseTrain) : Prop where
  le : e ≤ plan.edgeCount
  plan_eq : t.plan = plan
  phase : t.phase = plan.phaseAfter e
  deadline : e < plan.edgeCount → t.deadline = plan.due start e

variable {plan : GitvcPlan} {start e now : Nat} {t : PulseTrain}

theorem start?_stands (h : plan.pulses ≠ []) :
    ∃ t, start? plan start = some t ∧ t.Stands plan start 0 := by
  refine ⟨⟨plan, .waiting, start + plan.wait⟩, by simp [start?, h], ?_⟩
  exact ⟨Nat.zero_le _, rfl, rfl, fun _ => rfl⟩

theorem poll_of_opens {i : Nat} (h : t.opens? = some i) (hnow : t.deadline ≤ now) :
    t.poll now = (t.openPulse i, some (Pin.gitvcValve, gitvcOn)) := by
  have hdue : ¬ now < t.deadline := Nat.not_lt_of_le hnow
  cases hp : t.phase <;> simp_all [opens?, poll]

theorem poll_of_on {i : Nat} (h : t.phase = .on i) (hnow : t.deadline ≤ now) :
    t.poll now = (t.closePulse i, some (Pin.gitvcValve, gitvcOff)) := by
  have hdue : ¬ now < t.deadline := Nat.not_lt_of_le hnow
  simp [poll, h, hdue]

theorem Stands.opens (h : t.Stands plan start e) (he : e < plan.edgeCount) (heven : e % 2 = 0) :
    t.opens? = some (e / 2) := by
  by_cases hzero : e = 0 <;> simp [opens?, h.phase, GitvcPlan.phaseAfter, hzero, heven, he]

theorem Stands.on (h : t.Stands plan start e) (hodd : e % 2 = 1) : t.phase = .on (e / 2) := by
  have hzero : e ≠ 0 := by omega
  simp [h.phase, GitvcPlan.phaseAfter, hzero, hodd]

theorem Stands.done (h : t.Stands plan start plan.edgeCount) (hpulses : plan.pulses ≠ []) :
    t.phase = .done := by
  have hpos : 0 < plan.pulses.length := List.length_pos_iff.mpr hpulses
  have hzero : plan.edgeCount ≠ 0 := by
    rw [GitvcPlan.edgeCount]
    omega
  have heven : plan.edgeCount % 2 ≠ 1 := by
    rw [GitvcPlan.edgeCount]
    omega
  simp [h.phase, GitvcPlan.phaseAfter, hzero, heven]

theorem Stands.isDone_iff (h : t.Stands plan start e) (hpulses : plan.pulses ≠ []) :
    t.isDone = true ↔ e = plan.edgeCount := by
  rw [isDone, beq_iff_eq]
  constructor
  · intro hdone
    refine Decidable.byContradiction fun hne => ?_
    have hlt : e < plan.edgeCount := Nat.lt_of_le_of_ne h.le hne
    rcases Nat.mod_two_eq_zero_or_one e with heven | hodd
    · have hopens := h.opens hlt heven
      rw [opens?, hdone] at hopens
      cases hopens
    · rw [h.on hodd] at hdone
      cases hdone
  · rintro rfl
    exact h.done hpulses

theorem Stands.pulsesStarted_eq (h : t.Stands plan start e) (hpulses : plan.pulses ≠ []) :
    t.pulsesStarted = (e + 1) / 2 := by
  have hcount : plan.edgeCount = 2 * plan.pulses.length := rfl
  rcases Nat.lt_or_eq_of_le h.le with hlt | rfl
  · rcases Nat.mod_two_eq_zero_or_one e with heven | hodd
    · rw [pulsesStarted_of_opens (h.opens hlt heven)]
      omega
    · rw [pulsesStarted, h.on hodd]
      show e / 2 + 1 = (e + 1) / 2
      omega
  · rw [pulsesStarted, h.done hpulses]
    show t.plan.pulses.length = _
    rw [h.plan_eq]
    omega

theorem Stands.poll_early (h : t.Stands plan start e) (he : e < plan.edgeCount)
    (hnow : now < plan.due start e) : t.poll now = (t, none) := by
  rw [← h.deadline he] at hnow
  exact if_pos hnow

theorem Stands.poll_over (h : t.Stands plan start plan.edgeCount) (hpulses : plan.pulses ≠ []) :
    t.poll now = (t, none) := by
  simp [poll, h.done hpulses]

theorem Stands.poll_due (h : t.Stands plan start e) (he : e < plan.edgeCount)
    (hnow : plan.due start e ≤ now) :
    (t.poll now).2 = some (GitvcPlan.edge e) ∧ (t.poll now).1.Stands plan start (e + 1) := by
  have hdeadline := h.deadline he
  have hcount : plan.edgeCount = 2 * plan.pulses.length := rfl
  obtain rfl := h.plan_eq
  rw [← hdeadline] at hnow
  rcases Nat.mod_two_eq_zero_or_one e with heven | hodd
  · have hhalf : (e + 1) / 2 = e / 2 := by omega
    have hnext : (e + 1) % 2 = 1 := by omega
    rw [poll_of_opens (h.opens he heven) hnow]
    refine ⟨by simp [GitvcPlan.edge, heven], he, rfl, ?_, fun _ => ?_⟩
    · simp [openPulse, GitvcPlan.phaseAfter, hhalf, hnext]
    · simp [openPulse, width, GitvcPlan.due, GitvcPlan.span, hdeadline, heven]
  · have hhalf : (e + 1) / 2 = e / 2 + 1 := by omega
    have hnext : (e + 1) % 2 = 0 := by omega
    rw [poll_of_on (h.on hodd) hnow]
    refine ⟨by simp [GitvcPlan.edge, hodd], ?_⟩
    by_cases hmore : e / 2 + 1 < t.plan.pulses.length
    · have hlt : e + 1 < t.plan.edgeCount := by omega
      refine ⟨he, by simp [closePulse, hmore], ?_, fun _ => ?_⟩
      · simp [closePulse, hmore, GitvcPlan.phaseAfter, hhalf, hnext, hlt]
      · simp [closePulse, hmore, GitvcPlan.due, GitvcPlan.span, hdeadline, hodd]
    · have hlast : ¬ e + 1 < t.plan.edgeCount := by omega
      refine ⟨he, by simp [closePulse, hmore], ?_, fun hlt => absurd hlt hlast⟩
      simp [closePulse, hmore, GitvcPlan.phaseAfter, hnext, hlast]

/-! The same train look by look. -/

/-- The train as look `k` finds it. -/
def before (t : PulseTrain) (looks : Nat → Nat) : Nat → PulseTrain
  | 0 => t
  | k + 1 => ((t.before looks k).poll (looks k)).1

/-- The edge that look `k` makes, if any. -/
def edgeAt? (t : PulseTrain) (looks : Nat → Nat) (k : Nat) : Option PinWrite :=
  ((t.before looks k).poll (looks k)).2

def edges (t : PulseTrain) (looks : Nat → Nat) (k : Nat) : List PinWrite :=
  (List.range k).filterMap (t.edgeAt? looks)

theorem edges_succ (t : PulseTrain) (looks : Nat → Nat) (k : Nat) :
    t.edges looks (k + 1) = t.edges looks k ++ (t.edgeAt? looks k).toList := by
  rw [edges, List.range_succ, List.filterMap_append]
  cases h : t.edgeAt? looks k <;> simp [edges, h]

/-- Look `k` finds a train that has made `e` edges, each at its own look. -/
structure Made (plan : GitvcPlan) (start : Nat) (t : PulseTrain) (looks : Nat → Nat) (k e : Nat) :
    Prop where
  stands : (t.before looks k).Stands plan start e
  edges : t.edges looks k = (List.range e).map GitvcPlan.edge
  made : ∀ e' < e, ∃ j < k, plan.Falls start looks e' j
  pending : e < plan.edgeCount → ∀ j, plan.Falls start looks e j → k ≤ j

variable {looks : Nat → Nat} {k : Nat}

/-- A look makes the next edge if that falls to it, and no edge otherwise. -/
theorem Made.look (h : t.Made plan start looks k e) (hclock : Monotone looks)
    (hpulses : plan.pulses ≠ []) :
    t.edgeAt? looks k = none ∧ (e < plan.edgeCount → ¬ plan.Falls start looks e k) ∧
        t.Made plan start looks (k + 1) e ∨
      t.edgeAt? looks k = some (GitvcPlan.edge e) ∧ e < plan.edgeCount ∧
        plan.Falls start looks e k ∧ t.Made plan start looks (k + 1) (e + 1) := by
  obtain ⟨hstands, hedges, hmade, hpending⟩ := h
  have hmade' : ∀ e' < e, ∃ j < k + 1, plan.Falls start looks e' j := by
    intro e' he'
    obtain ⟨j, hj, hf⟩ := hmade e' he'
    exact ⟨j, Nat.lt_succ_of_lt hj, hf⟩
  by_cases hdue : e < plan.edgeCount ∧ plan.due start e ≤ looks k
  · -- the edge before had its look, so that nothing but this look is left for one that is due
    obtain ⟨he, hdue⟩ := hdue
    have hfalls := GitvcPlan.falls_of_due hdue hmade (hpending he)
    obtain ⟨hedge, hnext⟩ := hstands.poll_due he hdue
    refine .inr ⟨hedge, he, hfalls, hnext, ?_, ?_, ?_⟩
    · rw [edges_succ, hedges, edgeAt?, hedge, List.range_succ, List.map_append]
      rfl
    · intro e' he'
      rcases Nat.lt_or_eq_of_le (Nat.le_of_lt_succ he') with hlt | rfl
      · exact hmade' e' hlt
      · exact ⟨k, Nat.lt_succ_self k, hfalls⟩
    · intro _ j hj
      obtain ⟨i, hi, hf⟩ := hj.earlier (Nat.lt_succ_self e)
      rwa [hf.unique hfalls] at hi
  · -- too early for the next edge, or there is none
    have hpoll : (t.before looks k).poll (looks k) = (t.before looks k, none) := by
      by_cases he : e < plan.edgeCount
      · exact hstands.poll_early he (Nat.lt_of_not_le fun hle => hdue ⟨he, hle⟩)
      · obtain rfl : e = plan.edgeCount := Nat.le_antisymm hstands.le (Nat.le_of_not_lt he)
        exact hstands.poll_over hpulses
    have hnone : t.edgeAt? looks k = none := congrArg Prod.snd hpoll
    have hnot : e < plan.edgeCount → ¬ plan.Falls start looks e k :=
      fun he hf => hdue ⟨he, hf.due_le hclock⟩
    refine .inl ⟨hnone, hnot, ?_, ?_, hmade', ?_⟩
    · rwa [before, hpoll]
    · rw [edges_succ, hnone, hedges, Option.toList_none, List.append_nil]
    · intro he j hj
      have hne : k ≠ j := fun heq => hnot he (heq ▸ hj)
      exact Nat.lt_of_le_of_ne (hpending he j hj) hne

theorem exists_made (hclock : Monotone looks) (hpulses : plan.pulses ≠ [])
    (h : t.Stands plan start 0) (k : Nat) : ∃ e, t.Made plan start looks k e := by
  induction k with
  | zero => exact ⟨0, h, rfl, by simp, by simp⟩
  | succ k ih =>
    obtain ⟨e, he⟩ := ih
    rcases he.look hclock hpulses with ⟨-, -, hnext⟩ | ⟨-, -, -, hnext⟩
    · exact ⟨e, hnext⟩
    · exact ⟨e + 1, hnext⟩

/-- Only the next edge can fall to the look at hand. -/
theorem Made.eq_of_falls {e' : Nat} (h : t.Made plan start looks k e)
    (he' : e' < plan.edgeCount) (hf : plan.Falls start looks e' k) : e' = e := by
  rcases Nat.lt_trichotomy e' e with hlt | heq | hgt
  · obtain ⟨j, hj, hfj⟩ := h.made e' hlt
    exact absurd (hfj.unique hf) (Nat.ne_of_lt hj)
  · exact heq
  · obtain ⟨j, hj, hfj⟩ := hf.earlier hgt
    exact absurd (h.pending (Nat.lt_trans hgt he') j hfj) (Nat.not_le_of_lt hj)

/-- A pulse train follows its plan however late the looks are. A look makes an edge
exactly if one of the plan falls to it, and that edge is then the next; the pulses
started are the openings made; and the train is done exactly when it has made all
edges of the plan, after which no look makes another. -/
theorem edges_follow_plan (plan : GitvcPlan) (start : Nat) (looks : Nat → Nat)
    (hpulses : plan.pulses ≠ []) (hclock : Monotone looks) :
    ∃ t, start? plan start = some t ∧
      (∀ k w, t.edgeAt? looks k = some w ↔
        ∃ e < plan.edgeCount, plan.Falls start looks e k ∧ w = GitvcPlan.edge e) ∧
      (∀ k, ∀ e < plan.edgeCount, plan.Falls start looks e k →
        t.edges looks k = (List.range e).map GitvcPlan.edge) ∧
      (∀ k, (t.before looks k).pulsesStarted =
        (t.edges looks k).count (Pin.gitvcValve, gitvcOn)) ∧
      (∀ k, (t.before looks k).isDone = true ↔ (t.edges looks k).length = plan.edgeCount) ∧
      ∀ k, (t.before looks k).isDone = true → ∀ j, k ≤ j → t.edgeAt? looks j = none := by
  obtain ⟨t, hstart, hstands⟩ : ∃ t, start? plan start = some t ∧ t.Stands plan start 0 :=
    start?_stands hpulses
  have hmade := exists_made hclock hpulses hstands
  refine ⟨t, hstart, ?_, ?_, ?_, ?_, ?_⟩
  · intro k w
    obtain ⟨e, he⟩ := hmade k
    rcases he.look hclock hpulses with ⟨hnone, hnot, -⟩ | ⟨hedge, hlt, hfalls, -⟩
    · rw [hnone]
      refine ⟨fun h => (by cases h), ?_⟩
      rintro ⟨e', hlt, hf, -⟩
      obtain rfl := he.eq_of_falls hlt hf
      exact absurd hf (hnot hlt)
    · rw [hedge, Option.some.injEq]
      refine ⟨fun h => ⟨e, hlt, hfalls, h.symm⟩, ?_⟩
      rintro ⟨e', hlt', hf, rfl⟩
      rw [he.eq_of_falls hlt' hf]
  · intro k e' hlt hf
    obtain ⟨e, he⟩ := hmade k
    rw [he.edges, he.eq_of_falls hlt hf]
  · intro k
    obtain ⟨e, he⟩ := hmade k
    rw [he.edges, GitvcPlan.count_openings, he.stands.pulsesStarted_eq hpulses]
  · intro k
    obtain ⟨e, he⟩ := hmade k
    rw [he.stands.isDone_iff hpulses, he.edges, List.length_map, List.length_range]
  · intro k hdone j hkj
    obtain ⟨e, he⟩ := hmade k
    obtain rfl := (he.stands.isDone_iff hpulses).mp hdone
    obtain ⟨e', he'⟩ := hmade j
    rcases he'.look hclock hpulses with ⟨hnone, -⟩ | ⟨-, hlt, hfalls, -⟩
    · exact hnone
    · -- an edge of look `j` had its look before `k` already
      obtain ⟨i, hi, hf⟩ := he.made e' hlt
      have hij := hf.unique hfalls
      omega

/-- Late looks at a train of two pulses, the second of no length: at look 1 all four
edges are overdue, and the last one is made at look 4. -/
theorem edges_follow_plan_of_late_looks :
    let plan : GitvcPlan := ⟨5, 5, [10, 0]⟩
    let looks : Nat → Nat := fun n => 30 * min n 1
    plan.pulses ≠ [] ∧ Monotone looks ∧ plan.Falls 0 looks 3 4 ∧
      ∃ t, start? plan 0 = some t ∧ t.edgeAt? looks 4 = some (Pin.gitvcValve, gitvcOff) ∧
        (t.before looks 5).isDone = true := by
  intro plan looks
  have hclock : Monotone looks := by
    intro m n hmn
    exact Nat.mul_le_mul_left 30 (Nat.le_min.mpr ⟨by omega, by omega⟩)
  have hfirst : ∀ d, 0 < d → d ≤ 30 → GitvcPlan.FirstLook looks d 1 := by
    intro d hpos hle
    refine ⟨hle, fun j hj => ?_⟩
    obtain rfl : j = 0 := by omega
    exact hpos
  have h0 : plan.Falls 0 looks 0 1 := .first (hfirst 5 (by decide) (by decide))
  have h1 : plan.Falls 0 looks 1 2 := .next h0 (hfirst 15 (by decide) (by decide))
  have h2 : plan.Falls 0 looks 2 3 := .next h1 (hfirst 20 (by decide) (by decide))
  have h3 : plan.Falls 0 looks 3 4 := .next h2 (hfirst 20 (by decide) (by decide))
  obtain ⟨t, hstart, hedge, hnumber, -, hdone, -⟩ :=
    edges_follow_plan plan 0 looks (by decide) hclock
  have hlast : t.edgeAt? looks 4 = some (Pin.gitvcValve, gitvcOff) :=
    (hedge 4 _).mpr ⟨3, by decide, h3, rfl⟩
  refine ⟨by decide, hclock, h3, t, hstart, hlast, (hdone 5).mpr ?_⟩
  rw [edges_succ, hnumber 4 3 (by decide) h3, hlast]
  rfl

end PulseTrain

end HotFire
