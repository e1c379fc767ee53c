import HotFire.Sampling

/-! What the pressure guard makes of a pass. Each reading reaches the channel of
its own sensor only, and the shutoff it leaves is the guard's own. -/

namespace HotFire

theorem modifyFirst_map_of_key {α β : Type} {p : α → Bool} {f : α → α} (key : α → β)
    (hf : ∀ x, key (f x) = key x) (xs : List α) :
    (modifyFirst p f xs).map key = xs.map key := by
  induction xs with
  | nil => rfl
  | cons x xs ih => cases hp : p x <;> simp [modifyFirst, hp, hf, ih]

theorem mem_of_mem_modifyFirst {α : Type} {p : α → Bool} {f : α → α} {xs : List α} {y : α}
    (h : y ∈ modifyFirst p f xs) : y ∈ xs ∨ ∃ x ∈ xs, p x = true ∧ y = f x := by
  induction xs with
  | nil => simp [modifyFirst] at h
  | cons x xs ih =>
    cases hp : p x with
    | true =>
      simp only [modifyFirst, hp, if_true, List.mem_cons] at h
      rcases h with rfl | h
      · exact .inr ⟨x, by simp, hp, rfl⟩
      · exact .inl (by simp [h])
    | false =>
      simp only [modifyFirst, hp, Bool.false_eq_true, if_false, List.mem_cons] at h
      rcases h with rfl | h
      · exact .inl (by simp)
      · rcases ih h with h | ⟨z, hz, hpz, rfl⟩
        · exact .inl (by simp [h])
        · exact .inr ⟨z, by simp [hz], hpz, rfl⟩

theorem eq_of_mem_modifyFirst {α β : Type} [DecidableEq β] (key : α → β) {k : β} {f : α → α}
    {xs : List α} (hnd : (xs.map key).Nodup) {y : α}
    (h : y ∈ modifyFirst (fun x => key x == k) f xs) (hk : key y = k) : ∃ x ∈ xs, y = f x := by
  induction xs with
  | nil => simp [modifyFirst] at h
  | cons x xs ih =>
    obtain ⟨hx, hnd⟩ := List.nodup_cons.mp hnd
    by_cases he : key x = k
    · simp only [modifyFirst, he, beq_self_eq_true, if_true, List.mem_cons] at h
      rcases h with rfl | h
      · exact ⟨x, by simp, rfl⟩
      · exact absurd (List.mem_map.mpr ⟨y, h, hk.trans he.symm⟩) hx
    · simp only [modifyFirst, beq_eq_false_iff_ne.mpr he, Bool.false_eq_true, if_false,
        List.mem_cons] at h
      rcases h with rfl | h
      · exact absurd hk he
      · obtain ⟨z, hz, hyz⟩ := ih hnd h
        exact ⟨z, by simp [hz], hyz⟩

theorem find?_modifyFirst {α : Type} {p : α → Bool} {f : α → α} (hf : ∀ x, p (f x) = p x)
    (xs : List α) : (modifyFirst p f xs).find? p = (xs.find? p).map f := by
  induction xs with
  | nil => rfl
  | cons x xs ih => cases hp : p x <;> simp [modifyFirst, hp, hf, ih]

theorem find?_modifyFirst_of_disjoint {α : Type} {p q : α → Bool} {f : α → α}
    (hf : ∀ x, p x = true → q x = false ∧ q (f x) = false) (xs : List α) :
    (modifyFirst p f xs).find? q = xs.find? q := by
  induction xs with
  | nil => rfl
  | cons x xs ih =>
    cases hp : p x with
    | true => simp [modifyFirst, hp, hf x hp]
    | false => simp [modifyFirst, hp, List.find?_cons, ih]

theorem zip_map_fst {α β : Type} (xs : List α) (ys : List β) :
    (xs.zip ys).map (·.1) = xs.take ys.length := by
  induction xs generalizing ys with
  | nil => simp
  | cons x xs ih => cases ys <;> simp [ih]

namespace PressureGuard

def watched (g : PressureGuard) : List (Sensor × PressureLimits) :=
  g.channels.map fun c => (c.sensor, c.limits)

def sensors (g : PressureGuard) : List Sensor := g.channels.map (·.sensor)

theorem sensors_eq_watched (g : PressureGuard) : g.sensors = g.watched.map (·.1) := by
  simp [sensors, watched]

theorem guards_iff (g : PressureGuard) (s : Sensor) : g.guards s = true ↔ s ∈ g.sensors := by
  simp [guards, channel?, sensors]

theorem channel?_of_mem {g : PressureGuard} (hnd : g.sensors.Nodup) {c : GuardChannel}
    (hc : c ∈ g.channels) : g.channel? c.sensor = some c := by
  obtain ⟨channels⟩ := g
  simp only [sensors, channel?] at hnd hc ⊢
  induction channels with
  | nil => simp at hc
  | cons x xs ih =>
    simp only [List.map_cons, List.nodup_cons] at hnd
    rcases List.mem_cons.mp hc with rfl | hm
    · simp
    · have hne : x.sensor ≠ c.sensor := fun he => hnd.1 (List.mem_map.mpr ⟨c, hm, he.symm⟩)
      simp [hne, ih hnd.2 hm]

theorem channel?_sensor {g : PressureGuard} {s : Sensor} {c : GuardChannel}
    (h : g.channel? s = some c) : c.sensor = s := by
  simpa using List.find?_some h

/-- A reading reaches the channel of its own sensor and no other. -/
theorem update_channel? (g : PressureGuard) (s t : Sensor) (raw : UInt16) (f : SafetyFlags) :
    (g.update t raw f).guard.channel? s =
      if t = s then (g.channel? s).map (·.fold raw) else g.channel? s := by
  cases hc : g.channel? t with
  | none =>
    by_cases ht : t = s
    · subst ht
      simp [update, hc]
    · simp [update, hc, ht]
  | some c =>
    simp only [update, hc]
    by_cases ht : t = s
    · subst ht
      rw [if_pos rfl]
      exact find?_modifyFirst (p := (·.sensor == t)) (f := (·.fold raw)) (fun _ => rfl) g.channels
    · rw [if_neg ht]
      refine find?_modifyFirst_of_disjoint ?_ g.channels
      intro x hx
      have hne : (x.sensor == s) = false := by simpa [eq_of_beq hx] using ht
      exact ⟨hne, hne⟩

theorem update_of_not_mem {g : PressureGuard} {s : Sensor} (h : s ∉ g.sensors) (raw : UInt16)
    (f : SafetyFlags) : (g.update s raw f).guard = g ∧ (g.update s raw f).flags = f := by
  have hn : g.channel? s = none := by
    rw [← Option.not_isSome_iff_eq_none]
    exact fun hs => h ((g.guards_iff s).mp hs)
  simp [update, hn]

theorem update_of_mem {g : PressureGuard} {s : Sensor} (h : s ∈ g.sensors) (raw : UInt16)
    (f : SafetyFlags) :
    (g.update s raw f).guard = ⟨modifyFirst (·.sensor == s) (·.fold raw) g.channels⟩ ∧
      (g.update s raw f).flags = f.setShutoff (g.update s raw f).guard.shutoff := by
  obtain ⟨c, hc⟩ := Option.isSome_iff_exists.mp ((g.guards_iff s).mpr h)
  simp [update, hc]

/-- A reading keeps the shared shutoff at what the guard says, and that of a guarded
sensor brings it there. -/
theorem update_agrees {g : PressureGuard} {f : SafetyFlags} {s : Sensor}
    (h : f.shutoff = g.shutoff ∨ s ∈ g.sensors) (raw : UInt16) :
    (g.update s raw f).flags.shutoff = (g.update s raw f).guard.shutoff := by
  by_cases hs : s ∈ g.sensors
  · exact congrArg SafetyFlags.shutoff (update_of_mem hs raw f).2
  · obtain ⟨hg, hf⟩ := update_of_not_mem hs raw f
    rw [hg, hf]
    exact h.resolve_right hs

@[simp] theorem update_watched (g : PressureGuard) (s : Sensor) (raw : UInt16)
    (f : SafetyFlags) : (g.update s raw f).guard.watched = g.watched := by
  by_cases h : s ∈ g.sensors
  · rw [(update_of_mem h raw f).1]
    exact modifyFirst_map_of_key (f := (·.fold raw)) (fun c => (c.sensor, c.limits))
      (fun _ => rfl) g.channels
  · rw [(update_of_not_mem h raw f).1]

@[simp] theorem update_ignition (g : PressureGuard) (s : Sensor) (raw : UInt16)
    (f : SafetyFlags) : (g.update s raw f).flags.ignition = f.ignition := by
  by_cases h : s ∈ g.sensors
  · rw [(update_of_mem h raw f).2]; rfl
  · rw [(update_of_not_mem h raw f).2]

/-- A channel after a reading: untouched, or its mark tells whether its average
is out of bounds. -/
theorem update_channel {g : PressureGuard} (hnd : g.sensors.Nodup) {s : Sensor} {raw : UInt16}
    {f : SafetyFlags} {c : GuardChannel} (hc : c ∈ (g.update s raw f).guard.channels) :
    c.sensor ≠ s ∧ c ∈ g.channels ∨ c.sensor = s ∧ c.outside = !c.limits.inBounds c.average := by
  by_cases h : s ∈ g.sensors
  · rw [(update_of_mem h raw f).1] at hc
    by_cases hs : c.sensor = s
    · obtain ⟨x, -, rfl⟩ := eq_of_mem_modifyFirst GuardChannel.sensor hnd hc hs
      exact .inr ⟨hs, rfl⟩
    · rcases mem_of_mem_modifyFirst hc with hm | ⟨x, -, hx, rfl⟩
      · exact .inl ⟨hs, hm⟩
      · exact absurd (eq_of_beq hx) hs
  · rw [(update_of_not_mem h raw f).1] at hc
    exact .inl ⟨fun hs => h (List.mem_map.mpr ⟨c, hc, hs⟩), hc⟩

def watchAll (g : PressureGuard) (f : SafetyFlags) :
    List (Sensor × UInt16) → PressureGuard × SafetyFlags
  | [] => (g, f)
  | r :: rs => watchAll (g.update r.1 r.2 f).guard (g.update r.1 r.2 f).flags rs

@[simp] theorem watchAll_watched (g : PressureGuard) (f : SafetyFlags)
    (rs : List (Sensor × UInt16)) : (g.watchAll f rs).1.watched = g.watched := by
  induction rs generalizing g f with
  | nil => rfl
  | cons r rs ih => simp [watchAll, ih]

@[simp] theorem watchAll_ignition (g : PressureGuard) (f : SafetyFlags)
    (rs : List (Sensor × UInt16)) : (g.watchAll f rs).2.ignition = f.ignition := by
  induction rs generalizing g f with
  | nil => rfl
  | cons r rs ih => simp [watchAll, ih]

theorem update_sensors (g : PressureGuard) (s : Sensor) (raw : UInt16) (f : SafetyFlags) :
    (g.update s raw f).guard.sensors = g.sensors := by
  simp [sensors_eq_watched]

theorem watchAll_channel {g : PressureGuard} (hnd : g.sensors.Nodup) {f : SafetyFlags}
    {rs : List (Sensor × UInt16)} {c : GuardChannel} (hc : c ∈ (g.watchAll f rs).1.channels) :
    c ∈ g.channels ∧ c.sensor ∉ rs.map (·.1) ∨ c.outside = !c.limits.inBounds c.average := by
  induction rs generalizing g f with
  | nil => exact .inl ⟨hc, by simp⟩
  | cons r rs ih =>
    rcases ih (by rwa [update_sensors]) hc with ⟨hm, hn⟩ | ho
    · rcases update_channel hnd hm with ⟨hne, hg⟩ | ⟨-, ho⟩
      · exact .inl ⟨hg, by simp [hne, hn]⟩
      · exact .inr ho
    · exact .inr ho

/-- A reading of a guarded sensor makes the shutoff the guard's own, and the
readings after it keep it so. -/
theorem watchAll_shutoff {g : PressureGuard} {f : SafetyFlags} {rs : List (Sensor × UInt16)}
    (h : f.shutoff = g.shutoff ∨ ∃ r ∈ rs, r.1 ∈ g.sensors) :
    (g.watchAll f rs).2.shutoff = (g.watchAll f rs).1.shutoff := by
  induction rs generalizing g f with
  | nil =>
    rcases h with h | ⟨r, hr, -⟩
    · exact h
    · simp at hr
  | cons r rs ih =>
    apply ih
    by_cases hr : r.1 ∈ g.sensors
    · exact .inl (update_agrees (.inr hr) r.2)
    · obtain ⟨hg, hf⟩ := update_of_not_mem hr r.2 f
      rw [hg, hf]
      refine h.imp_right fun ⟨x, hx, hm⟩ => ?_
      rcases List.mem_cons.mp hx with rfl | hx
      · exact absurd hm hr
      · exact ⟨x, hx, hm⟩

/-- Once every guarded sensor has been read, the shutoff says whether some
average is out of bounds. -/
theorem watchAll_shutoff_iff {g : PressureGuard} (hnd : g.sensors.Nodup)
    (hne : g.channels ≠ []) {f : SafetyFlags} {rs : List (Sensor × UInt16)}
    (hall : ∀ s ∈ g.sensors, s ∈ rs.map (·.1)) :
    (g.watchAll f rs).2.shutoff = true ↔
      ∃ c ∈ (g.watchAll f rs).1.channels, c.limits.inBounds c.average = false := by
  obtain ⟨c₀, hc₀⟩ := List.exists_mem_of_ne_nil _ hne
  have hread : ∃ r ∈ rs, r.1 ∈ g.sensors := by
    have hs : c₀.sensor ∈ g.sensors := List.mem_map.mpr ⟨c₀, hc₀, rfl⟩
    obtain ⟨r, hr, he⟩ := List.mem_map.mp (hall _ hs)
    exact ⟨r, hr, by rwa [he]⟩
  rw [watchAll_shutoff (.inr hread), shutoff, List.any_eq_true]
  refine exists_congr fun c => and_congr_right fun hc => ?_
  rcases watchAll_channel hnd hc with ⟨hm, hn⟩ | ho
  · exact absurd (hall _ (List.mem_map.mpr ⟨c, hm, rfl⟩)) hn
  · rw [ho, Bool.not_eq_true']

end PressureGuard

namespace SampleSlot

@[simp] theorem keep_spec (slot : SampleSlot) (c : Conversion) :
    (slot.keep c).1.spec = slot.spec := by
  cases h : slot.buffer.push (item c) with
  | mk buffer status => cases status <;> simp [keep, h]

end SampleSlot

namespace Pass

theorem sample_eq_watch (p : Pass) (slot : SampleSlot) (c : Conversion) :
    (p.sample slot c).guard = (p.watch slot.spec.sensor c.raw).guard ∧
      (p.sample slot c).flags = (p.watch slot.spec.sensor c.raw).flags := by
  cases hg : p.guard <;> cases hk : slot.keep c with
  | mk kept frame => cases frame <;> simp [sample, watch, deliver, hg, hk]

theorem sample_slots (p : Pass) (slot : SampleSlot) (c : Conversion) :
    (p.sample slot c).slots = p.slots ++ [(slot.keep c).1] := by
  cases hg : p.guard <;> cases hk : slot.keep c with
  | mk kept frame => cases frame <;> simp [sample, watch, deliver, hg, hk]

end Pass

namespace SamplingLoop

def readings (l : SamplingLoop) (cs : List Conversion) : List (Sensor × UInt16) :=
  (l.slots.zip cs).map fun x => (x.1.spec.sensor, x.2.raw)

theorem foldl_sample_guard {xs : List (SampleSlot × Conversion)} {p : Pass} {g : PressureGuard}
    (hp : p.guard = some g) :
    (xs.foldl (fun p x => p.sample x.1 x.2) p).guard =
        some (g.watchAll p.flags (xs.map fun x => (x.1.spec.sensor, x.2.raw))).1 ∧
      (xs.foldl (fun p x => p.sample x.1 x.2) p).flags =
        (g.watchAll p.flags (xs.map fun x => (x.1.spec.sensor, x.2.raw))).2 := by
  induction xs generalizing p g with
  | nil => exact ⟨hp, rfl⟩
  | cons x xs ih =>
    obtain ⟨hg, hf⟩ := p.sample_eq_watch x.1 x.2
    simp only [Pass.watch, hp] at hg hf
    have hi := ih (p := p.sample x.1 x.2) hg
    rw [hf] at hi
    exact hi

theorem foldl_sample_unguarded {xs : List (SampleSlot × Conversion)} {p : Pass}
    (hp : p.guard = none) :
    (xs.foldl (fun p x => p.sample x.1 x.2) p).guard = none ∧
      (xs.foldl (fun p x => p.sample x.1 x.2) p).flags = p.flags := by
  induction xs generalizing p with
  | nil => exact ⟨hp, rfl⟩
  | cons x xs ih =>
    obtain ⟨hg, hf⟩ := p.sample_eq_watch x.1 x.2
    simp only [Pass.watch, hp] at hg hf
    obtain ⟨hi, hj⟩ := ih (p := p.sample x.1 x.2) hg
    exact ⟨hi, hj.trans hf⟩

theorem foldl_sample_slots (xs : List (SampleSlot × Conversion)) (p : Pass) :
    (xs.foldl (fun p x => p.sample x.1 x.2) p).slots =
      p.slots ++ xs.map fun x => (x.1.keep x.2).1 := by
  induction xs generalizing p with
  | nil => simp
  | cons x xs ih => simp [ih, Pass.sample_slots]

theorem pass_slots (l : SamplingLoop) (cs : List Conversion) (f : SafetyFlags) :
    (l.pass cs f).loop.slots =
      (l.slots.zip cs).map (fun x => (x.1.keep x.2).1) ++ l.slots.drop cs.length :=
  congrArg (· ++ l.slots.drop cs.length) (foldl_sample_slots (l.slots.zip cs)
    { guard := l.guard, flags := f, stats := l.stats })

theorem pass_guarded {l : SamplingLoop} {g : PressureGuard} (hg : l.guard = some g)
    (cs : List Conversion) (f : SafetyFlags) :
    (l.pass cs f).loop.guard = some (g.watchAll f (l.readings cs)).1 ∧
      (l.pass cs f).flags = (g.watchAll f (l.readings cs)).2 :=
  foldl_sample_guard (p := { guard := l.guard, flags := f, stats := l.stats }) hg

theorem pass_unguarded {l : SamplingLoop} (hg : l.guard = none) (cs : List Conversion)
    (f : SafetyFlags) : (l.pass cs f).loop.guard = none ∧ (l.pass cs f).flags = f :=
  foldl_sample_unguarded (p := { guard := l.guard, flags := f, stats := l.stats }) hg

@[simp] theorem pass_ignition (l : SamplingLoop) (cs : List Conversion) (f : SafetyFlags) :
    (l.pass cs f).flags.ignition = f.ignition := by
  cases hg : l.guard with
  | none => rw [(pass_unguarded hg cs f).2]
  | some g => rw [(pass_guarded hg cs f).2, PressureGuard.watchAll_ignition]

theorem pass_specs {l : SamplingLoop} {cs : List Conversion} (f : SafetyFlags) :
    (l.pass cs f).loop.slots.map (·.spec) = l.slots.map (·.spec) := by
  have ht : (l.slots.zip cs).map (fun x => (x.1.keep x.2).1.spec) =
      (l.slots.map (·.spec)).take cs.length := by
    simp only [SampleSlot.keep_spec]
    rw [← List.map_take, ← zip_map_fst l.slots cs, List.map_map]
    rfl
  rw [pass_slots, List.map_append, List.map_map, List.map_drop]
  exact (congrArg (· ++ _) ht).trans (List.take_append_drop _ _)

end SamplingLoop

end HotFire
