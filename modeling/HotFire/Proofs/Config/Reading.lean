import HotFire.Proofs.Config.Keys
import HotFire.Proofs.Config.Validation

/-! What a configuration takes from a tree. Its fields are the values at the keys, as
they are, or the defaults of the keys that are missing; there is one whenever the tree
holds every required key and an accepted value at every key that is read. -/

namespace HotFire

open Reader

variable {t : ConfigTree} {e : ConfigError}

structure NetworkConfig.Follows (c : NetworkConfig) (t : ConfigTree) : Prop where
  address : t.string "Network" "address" = .ok c.address
  port : t.int "Network" "port" = .ok c.port.toNat
  listenAddress : t.Gives ConfigTree.string "Network" "listen_address" "0.0.0.0" c.listenAddress
  commandPort : t.Gives ConfigTree.int "Network" "command_port" 1234 c.commandPort.toNat

structure ScheduleConfig.Follows (c : ScheduleConfig) (t : ConfigTree) : Prop where
  preignite : t.int "Worker" "preignite_ms" = .ok c.preigniteMs.toNat
  hotflow : t.int "Worker" "hotflow_ms" = .ok c.hotflowMs.toNat
  poll : t.Gives ConfigTree.int "Worker" "poll_ms" 50 c.pollMs.toNat

structure PressureLimits.AllRead (l : PressureLimits) (t : ConfigTree) : Prop where
  max : t.double "Pressure" "pressure_max" = .ok l.max
  min : t.double "Pressure" "pressure_min" = .ok l.min
  slope : t.double "Pressure" "slope" = .ok l.slope
  intercept : t.double "Pressure" "yint" = .ok l.intercept

/-- All four numbers of the shutoff are those of the tree, or none is, for want of one. -/
def PressureLimits.Follows (l : PressureLimits) (t : ConfigTree) : Prop :=
  l.AllRead t ∨ (∃ k : ConfigKey, k.FirstMissing t) ∧
    l.max = 800 ∧ l.min = 300 ∧ l.slope = -0.3 ∧ l.intercept = 1108.1

structure PressureConfig.Follows (c : PressureConfig) (t : ConfigTree) : Prop where
  limits : c.limits.Follows t
  nominal : t.Gives ConfigTree.double "Pressure" "nominal" 700 c.limits.nominal
  shutoffArm : t.Gives ConfigTree.int "Pressure" "pressureshutoff_ms" 1000 c.shutoffArmMs.toNat
  shutoffEnabled : t.Gives ConfigTree.bool "Pressure" "shutoff_enabled" true c.shutoffEnabled

structure SamplingConfig.Follows (c : SamplingConfig) (t : ConfigTree) : Prop where
  loadCell : t.Gives ConfigTree.int "Sampling" "lc_hz" 2000 c.loadCellHz.toNat
  pressure : t.Gives ConfigTree.int "Sampling" "pt_hz" 500 c.pressureHz.toNat
  thermocouple : t.Gives ConfigTree.int "Sampling" "tc_hz" 20 c.thermocoupleHz.toNat

structure GitvcConfig.Follows (c : GitvcConfig) (t : ConfigTree) : Prop where
  enabled : t.Gives ConfigTree.bool "Luna" "use_gitvc" false c.enabled
  pulses : t.Gives ConfigTree.vector "Luna" "gitvc_times_ms" []
    (c.pulsesMs.map fun p => (p.toNat : Int))
  wait : t.Gives ConfigTree.int "Luna" "gitvc_wait_ms" 0 c.waitMs.toNat
  between : t.Gives ConfigTree.int "Luna" "time_between_gitvc_ms" 100 c.betweenMs.toNat

structure StandConfig.Follows (c : StandConfig) (t : ConfigTree) : Prop where
  network : c.network.Follows t
  engine : ∃ s, t.string "Main" "engine_type" = .ok s ∧ EngineKind.ofText? s = some c.engine
  schedule : c.schedule.Follows t
  pressure : c.pressure.Follows t
  sampling : c.sampling.Follows t
  gitvc : c.gitvc.Follows t

/-- A plan with every pulse of the tree, in its order. -/
def GitvcPlan.Follows (plan : GitvcPlan) (t : ConfigTree) : Prop :=
  ∃ (pulses : List Nat) (wait between : Nat),
    t.Gives ConfigTree.vector "Luna" "gitvc_times_ms" [] (pulses.map fun p : Nat => (p : Int)) ∧
    t.Gives ConfigTree.int "Luna" "gitvc_wait_ms" 0 wait ∧
    t.Gives ConfigTree.int "Luna" "time_between_gitvc_ms" 100 between ∧
    plan = ⟨wait * nanosPerMilli, between * nanosPerMilli, pulses.map (· * nanosPerMilli)⟩

/-- Every required key is there, and every key that is there and read is accepted. -/
structure ConfigTree.Readable (t : ConfigTree) : Prop where
  present : ∀ k ∈ ConfigKey.required, k.Present t
  accepted : ∀ k : ConfigKey, k.Present t → ¬ k.Shadowed t → k.Accepted t

theorem ConfigTree.Readable.not_faults (h : t.Readable) (k : ConfigKey) : ¬ k.Faults t e := by
  rintro (⟨hk, habsent⟩ | ⟨_, hearlier, hp, ha⟩)
  · exact habsent (h.present k hk)
  · exact ha (h.accepted k hp (ConfigKey.not_shadowed_of_accepted hearlier))

theorem ConfigTree.Readable.reads {α : Type} {x : Except ConfigError α} (h : t.Readable)
    (hx : ∀ {e}, x = .error e → ∃ k : ConfigKey, k.Faults t e) : ∃ a, x = .ok a := by
  cases hread : x with
  | ok a => exact ⟨a, rfl⟩
  | error e =>
    obtain ⟨k, hk⟩ := hx hread
    exact (h.not_faults k hk).elim

theorem NetworkConfig.ofTree_eq_ok_iff {c : NetworkConfig} :
    ofTree t = .ok c ↔ c.Follows t := by
  simp only [ofTree, bind_eq_ok_iff, Reader.port, narrowed_eq_ok_iff uint16?_exact,
    @optional_eq_ok_iff _ _ _ _ ConfigTree.string, optional_narrowed_eq_ok_iff uint16?_exact]
  constructor
  · rintro ⟨address, ha, p, hp, listen, hl, command, hc, hcons⟩
    cases hcons
    exact ⟨ha, hp, hl, hc⟩
  · rintro ⟨ha, hp, hl, hc⟩
    exact ⟨_, ha, _, hp, _, hl, _, hc, rfl⟩

theorem NetworkConfig.ofTree_error (h : ofTree t = .error e) : ∃ k : ConfigKey, k.Faults t e := by
  simp only [ofTree, bind_eq_error_iff] at h
  rcases h with h | ⟨_, -, h | ⟨_, -, h | ⟨_, -, h | ⟨_, -, h⟩⟩⟩⟩
  · exact ⟨.address, ConfigKey.faults_of_required (by decide) string_serves h⟩
  · exact ⟨.port, ConfigKey.faults_of_required (by decide) (narrowed_serves uint16?_exact) h⟩
  · exact ⟨.listenAddress, ConfigKey.faults_of_optional (by decide) string_serves h⟩
  · exact ⟨.commandPort, ConfigKey.faults_of_optional (by decide)
      (narrowed_serves uint16?_exact) h⟩
  · cases h

theorem ScheduleConfig.ofTree_eq_ok_iff {c : ScheduleConfig} :
    ofTree t = .ok c ↔ c.Follows t := by
  simp only [ofTree, bind_eq_ok_iff, millis, narrowed_eq_ok_iff uint64?_exact,
    optional_narrowed_eq_ok_iff uint64?_exact]
  constructor
  · rintro ⟨preignite, hpre, hotflow, hhot, poll, hpoll, hcons⟩
    cases hcons
    exact ⟨hpre, hhot, hpoll⟩
  · rintro ⟨hpre, hhot, hpoll⟩
    exact ⟨_, hpre, _, hhot, _, hpoll, rfl⟩

theorem ScheduleConfig.ofTree_error (h : ofTree t = .error e) : ∃ k : ConfigKey, k.Faults t e := by
  simp only [ofTree, bind_eq_error_iff] at h
  have hmillis := narrowed_serves uint64?_exact
  rcases h with h | ⟨_, -, h | ⟨_, -, h | ⟨_, -, h⟩⟩⟩
  · exact ⟨.preignite, ConfigKey.faults_of_required (by decide) hmillis h⟩
  · exact ⟨.hotflow, ConfigKey.faults_of_required (by decide) hmillis h⟩
  · exact ⟨.poll, ConfigKey.faults_of_optional (by decide) hmillis h⟩
  · cases h

theorem PressureLimits.ofTree_eq_ok_iff {l : PressureLimits} :
    ofTree t = .ok l ↔ l.AllRead t ∧ l.nominal = 700 := by
  simp only [ofTree, bind_eq_ok_iff]
  constructor
  · rintro ⟨max, hmax, min, hmin, slope, hslope, intercept, hintercept, hcons⟩
    cases hcons
    exact ⟨⟨hmax, hmin, hslope, hintercept⟩, rfl⟩
  · obtain ⟨slope, intercept, min, max, nominal⟩ := l
    rintro ⟨⟨hmax, hmin, hslope, hintercept⟩, rfl⟩
    exact ⟨_, hmax, _, hmin, _, hslope, _, hintercept, rfl⟩

theorem PressureLimits.ofTree_error (h : ofTree t = .error e) :
    ∃ k : ConfigKey, k.FirstMissing t ∧ e = .keyNotFound k.table k.name ∨
      k.Faults t e ∧ ∃ text, e = .invalidValue k.table k.name text := by
  simp only [ofTree, bind_eq_error_iff] at h
  -- the first read that fails; the numbers before it are read, so it is not shadowed
  rcases h with h | ⟨max, hmax, h | ⟨min, hmin, h | ⟨slope, hslope, h | ⟨_, -, h⟩⟩⟩⟩
  · refine ⟨.pressureMax, ConfigKey.stops_at_shutoff (by decide) double_serves ?_ h⟩
    simp [ConfigKey.earlier]
  · have hmax : ConfigKey.pressureMax.Accepted t := ⟨max, hmax⟩
    refine ⟨.pressureMin, ConfigKey.stops_at_shutoff (by decide) double_serves ?_ h⟩
    simp [ConfigKey.earlier, hmax]
  · have hmax : ConfigKey.pressureMax.Accepted t := ⟨max, hmax⟩
    have hmin : ConfigKey.pressureMin.Accepted t := ⟨min, hmin⟩
    refine ⟨.slope, ConfigKey.stops_at_shutoff (by decide) double_serves ?_ h⟩
    simp [ConfigKey.earlier, hmax, hmin]
  · have hmax : ConfigKey.pressureMax.Accepted t := ⟨max, hmax⟩
    have hmin : ConfigKey.pressureMin.Accepted t := ⟨min, hmin⟩
    have hslope : ConfigKey.slope.Accepted t := ⟨slope, hslope⟩
    refine ⟨.intercept, ConfigKey.stops_at_shutoff (by decide) double_serves ?_ h⟩
    simp [ConfigKey.earlier, hmax, hmin, hslope]
  · cases h

theorem PressureLimits.ofTree_of_firstMissing {k : ConfigKey} (h : k.FirstMissing t) :
    ofTree t = .error (.keyNotFound k.table k.name) := by
  obtain ⟨hk, habsent, hearlier⟩ := h
  have hmissing := ConfigKey.read_of_absent double_lawful habsent
  simp only [ConfigKey.shutoff, List.mem_cons, List.not_mem_nil, or_false] at hk
  simp only [ofTree, bind_eq_error_iff]
  rcases hk with rfl | rfl | rfl | rfl
  · exact .inl hmissing
  · obtain ⟨max, hmax⟩ := hearlier .pressureMax (by decide)
    exact .inr ⟨max, hmax, .inl hmissing⟩
  · obtain ⟨max, hmax⟩ := hearlier .pressureMax (by decide)
    obtain ⟨min, hmin⟩ := hearlier .pressureMin (by decide)
    exact .inr ⟨max, hmax, .inr ⟨min, hmin, .inl hmissing⟩⟩
  · obtain ⟨max, hmax⟩ := hearlier .pressureMax (by decide)
    obtain ⟨min, hmin⟩ := hearlier .pressureMin (by decide)
    obtain ⟨slope, hslope⟩ := hearlier .slope (by decide)
    exact .inr ⟨max, hmax, .inr ⟨min, hmin, .inr ⟨slope, hslope, .inl hmissing⟩⟩⟩

theorem PressureLimits.ofTreeOrStandard_eq_ok_iff {l : PressureLimits} :
    ofTreeOrStandard t = .ok l ↔ l.Follows t ∧ l.nominal = 700 := by
  constructor
  · intro h
    cases hread : ofTree t with
    | ok l' =>
      rw [ofTreeOrStandard, hread] at h
      cases h
      obtain ⟨hall, hnominal⟩ := ofTree_eq_ok_iff.mp hread
      exact ⟨.inl hall, hnominal⟩
    | error e =>
      obtain ⟨k, ⟨hfirst, rfl⟩ | ⟨-, text, rfl⟩⟩ := ofTree_error hread
      · rw [ofTreeOrStandard, hread] at h
        cases h
        exact ⟨.inr ⟨⟨k, hfirst⟩, rfl, rfl, rfl, rfl⟩, rfl⟩
      · rw [ofTreeOrStandard, hread] at h
        cases h
  · obtain ⟨slope, intercept, min, max, nominal⟩ := l
    rintro ⟨hall | ⟨⟨k, hfirst⟩, rfl, rfl, rfl, rfl⟩, rfl⟩
    · rw [ofTreeOrStandard, ofTree_eq_ok_iff.mpr ⟨hall, rfl⟩]
    · rw [ofTreeOrStandard, ofTree_of_firstMissing hfirst]
      rfl

theorem PressureLimits.ofTreeOrStandard_error (h : ofTreeOrStandard t = .error e) :
    ∃ k : ConfigKey, k.Faults t e := by
  cases hread : ofTree t with
  | ok l =>
    rw [ofTreeOrStandard, hread] at h
    cases h
  | error e' =>
    obtain ⟨k, ⟨-, rfl⟩ | ⟨hfaults, text, rfl⟩⟩ := ofTree_error hread
    · rw [ofTreeOrStandard, hread] at h
      cases h
    · rw [ofTreeOrStandard, hread] at h
      cases h
      exact ⟨k, hfaults⟩

theorem PressureLimits.Follows.withNominal {l : PressureLimits} (h : l.Follows t) (nominal : Float) :
    PressureLimits.Follows { l with nominal } t := by
  rcases h with ⟨hmax, hmin, hslope, hintercept⟩ | h
  · exact .inl ⟨hmax, hmin, hslope, hintercept⟩
  · exact .inr h

theorem PressureConfig.ofTree_eq_ok_iff {c : PressureConfig} :
    ofTree t = .ok c ↔ c.Follows t := by
  simp only [ofTree, bind_eq_ok_iff, PressureLimits.ofTreeOrStandard_eq_ok_iff, millis,
    @optional_eq_ok_iff _ _ _ _ ConfigTree.double, @optional_eq_ok_iff _ _ _ _ ConfigTree.bool,
    optional_narrowed_eq_ok_iff uint64?_exact]
  constructor
  · rintro ⟨limits, ⟨hlimits, h700⟩, nominal, hnominal, arm, harm, enabled, henabled, hcons⟩
    cases hcons
    rw [h700] at hnominal
    exact ⟨hlimits.withNominal nominal, hnominal, harm, henabled⟩
  · rintro ⟨hlimits, hnominal, harm, henabled⟩
    exact ⟨_, ⟨hlimits.withNominal 700, rfl⟩, _, hnominal, _, harm, _, henabled, rfl⟩

theorem PressureConfig.ofTree_error (h : ofTree t = .error e) :
    ∃ k : ConfigKey, k.Faults t e := by
  simp only [ofTree, bind_eq_error_iff] at h
  rcases h with h | ⟨_, -, h | ⟨_, -, h | ⟨_, -, h | ⟨_, -, h⟩⟩⟩⟩
  · exact PressureLimits.ofTreeOrStandard_error h
  · exact ⟨.nominal, ConfigKey.faults_of_optional (by decide) double_serves h⟩
  · exact ⟨.shutoffArm, ConfigKey.faults_of_optional (by decide)
      (narrowed_serves uint64?_exact) h⟩
  · exact ⟨.shutoffEnabled, ConfigKey.faults_of_optional (by decide) bool_serves h⟩
  · cases h

theorem SamplingConfig.ofTree_eq_ok_iff {c : SamplingConfig} :
    ofTree t = .ok c ↔ c.Follows t := by
  simp only [ofTree, bind_eq_ok_iff, count, optional_narrowed_eq_ok_iff uint32?_exact]
  constructor
  · rintro ⟨loadCell, hl, pressure, hp, thermocouple, ht, hcons⟩
    cases hcons
    exact ⟨hl, hp, ht⟩
  · rintro ⟨hl, hp, ht⟩
    exact ⟨_, hl, _, hp, _, ht, rfl⟩

theorem SamplingConfig.ofTree_error (h : ofTree t = .error e) :
    ∃ k : ConfigKey, k.Faults t e := by
  simp only [ofTree, bind_eq_error_iff] at h
  have hcount := narrowed_serves uint32?_exact
  rcases h with h | ⟨_, -, h | ⟨_, -, h | ⟨_, -, h⟩⟩⟩
  · exact ⟨.loadCellHz, ConfigKey.faults_of_optional (by decide) hcount h⟩
  · exact ⟨.pressureHz, ConfigKey.faults_of_optional (by decide) hcount h⟩
  · exact ⟨.thermocoupleHz, ConfigKey.faults_of_optional (by decide) hcount h⟩
  · cases h

theorem GitvcConfig.ofTree_eq_ok_iff {c : GitvcConfig} :
    ofTree t = .ok c ↔ c.Follows t := by
  simp only [ofTree, bind_eq_ok_iff, count, @optional_eq_ok_iff _ _ _ _ ConfigTree.bool,
    optional_counts_eq_ok_iff, optional_narrowed_eq_ok_iff uint32?_exact]
  constructor
  · rintro ⟨enabled, he, pulses, hp, wait, hw, between, hb, hcons⟩
    cases hcons
    exact ⟨he, hp, hw, hb⟩
  · rintro ⟨he, hp, hw, hb⟩
    exact ⟨_, he, _, hp, _, hw, _, hb, rfl⟩

theorem GitvcConfig.ofTree_error (h : ofTree t = .error e) :
    ∃ k : ConfigKey, k.Faults t e := by
  simp only [ofTree, bind_eq_error_iff] at h
  have hcount := narrowed_serves uint32?_exact
  rcases h with h | ⟨_, -, h | ⟨_, -, h | ⟨_, -, h | ⟨_, -, h⟩⟩⟩⟩
  · exact ⟨.useGitvc, ConfigKey.faults_of_optional (by decide) bool_serves h⟩
  · exact ⟨.gitvcTimes, ConfigKey.faults_of_optional (by decide) counts_serves h⟩
  · exact ⟨.gitvcWait, ConfigKey.faults_of_optional (by decide) hcount h⟩
  · exact ⟨.gitvcBetween, ConfigKey.faults_of_optional (by decide) hcount h⟩
  · cases h

theorem EngineKind.ofTree_eq_ok_iff {kind : EngineKind} :
    ofTree t = .ok kind ↔
      ∃ s, t.string "Main" "engine_type" = .ok s ∧ EngineKind.ofText? s = some kind :=
  engineKind_eq_ok_iff

theorem EngineKind.ofTree_error (h : ofTree t = .error e) : ∃ k : ConfigKey, k.Faults t e :=
  ⟨.engine, ConfigKey.faults_of_required (by decide) engineKind_serves h⟩

namespace StandConfig

variable {c c' : StandConfig}

theorem follows_iff :
    c.Follows t ↔ NetworkConfig.ofTree t = .ok c.network ∧ EngineKind.ofTree t = .ok c.engine ∧
      ScheduleConfig.ofTree t = .ok c.schedule ∧ PressureConfig.ofTree t = .ok c.pressure ∧
      SamplingConfig.ofTree t = .ok c.sampling ∧ GitvcConfig.ofTree t = .ok c.gitvc := by
  rw [NetworkConfig.ofTree_eq_ok_iff, EngineKind.ofTree_eq_ok_iff,
    ScheduleConfig.ofTree_eq_ok_iff, PressureConfig.ofTree_eq_ok_iff,
    SamplingConfig.ofTree_eq_ok_iff, GitvcConfig.ofTree_eq_ok_iff]
  constructor
  · rintro ⟨hn, hk, hs, hp, hr, hg⟩
    exact ⟨hn, hk, hs, hp, hr, hg⟩
  · rintro ⟨hn, hk, hs, hp, hr, hg⟩
    exact ⟨hn, hk, hs, hp, hr, hg⟩

theorem ofTree_eq_ok_iff : ofTree t = .ok c ↔ c.Follows t ∧ c.validate = .ok () := by
  simp only [ofTree, bind_eq_ok_iff, follows_iff]
  constructor
  · rintro ⟨n, hn, k, hk, s, hs, p, hp, r, hr, g, hg, ⟨⟩, hvalid, hcons⟩
    cases hcons
    exact ⟨⟨hn, hk, hs, hp, hr, hg⟩, hvalid⟩
  · rintro ⟨⟨hn, hk, hs, hp, hr, hg⟩, hvalid⟩
    exact ⟨_, hn, _, hk, _, hs, _, hp, _, hr, _, hg, (), hvalid, rfl⟩

/-- A tree is refused for one of its keys, or for what is wrong with all it says. -/
theorem ofTree_error (h : ofTree t = .error e) :
    (∃ k : ConfigKey, k.Faults t e) ∨ ∃ c : StandConfig, c.Follows t ∧ c.validate = .error e := by
  simp only [ofTree, bind_eq_error_iff] at h
  rcases h with h | ⟨n, hn, h | ⟨k, hk, h | ⟨s, hs, h | ⟨p, hp, h | ⟨r, hr, h | ⟨g, hg, h⟩⟩⟩⟩⟩⟩
  · exact .inl (NetworkConfig.ofTree_error h)
  · exact .inl (EngineKind.ofTree_error h)
  · exact .inl (ScheduleConfig.ofTree_error h)
  · exact .inl (PressureConfig.ofTree_error h)
  · exact .inl (SamplingConfig.ofTree_error h)
  · exact .inl (GitvcConfig.ofTree_error h)
  · rcases h with hflaw | ⟨-, -, h⟩
    · exact .inr ⟨⟨n, k, s, p, r, g⟩, follows_iff.mpr ⟨hn, hk, hs, hp, hr, hg⟩, hflaw⟩
    · cases h

theorem Follows.readable (h : c.Follows t) : t.Readable where
  present := by
    obtain ⟨s, hs, -⟩ := h.engine
    intro k hk
    simp only [ConfigKey.required, List.mem_cons, List.not_mem_nil, or_false] at hk
    rcases hk with rfl | rfl | rfl | rfl | rfl
    · exact string_lawful.isPresent h.network.address
    · exact int_lawful.isPresent h.network.port
    · exact string_lawful.isPresent hs
    · exact int_lawful.isPresent h.schedule.preignite
    · exact int_lawful.isPresent h.schedule.hotflow
  accepted := by
    intro k hp hs
    -- after the first missing number there is no telling, but such a key is shadowed
    have hlimits : k ∈ ConfigKey.shutoff → k.Accepted t ∨ c.pressure.limits.AllRead t := by
      intro hk
      rcases h.pressure.limits with hall | ⟨⟨k', hfirst⟩, -⟩
      · exact .inr hall
      · exact .inl (hfirst.accepted hk hp hs)
    cases k with
    | address => exact ⟨_, h.network.address⟩
    | port => exact ⟨_, h.network.port, UInt16.toNat_lt _⟩
    | listenAddress => exact ⟨_, h.network.listenAddress.read_eq hp⟩
    | commandPort => exact ⟨_, h.network.commandPort.read_eq hp, UInt16.toNat_lt _⟩
    | engine =>
      obtain ⟨s, hs⟩ := h.engine
      exact ⟨s, _, hs⟩
    | preignite => exact ⟨_, h.schedule.preignite, UInt64.toNat_lt _⟩
    | hotflow => exact ⟨_, h.schedule.hotflow, UInt64.toNat_lt _⟩
    | poll => exact ⟨_, h.schedule.poll.read_eq hp, UInt64.toNat_lt _⟩
    | pressureMax => exact (hlimits (by decide)).elim id fun hall => ⟨_, hall.max⟩
    | pressureMin => exact (hlimits (by decide)).elim id fun hall => ⟨_, hall.min⟩
    | slope => exact (hlimits (by decide)).elim id fun hall => ⟨_, hall.slope⟩
    | intercept => exact (hlimits (by decide)).elim id fun hall => ⟨_, hall.intercept⟩
    | nominal => exact ⟨_, h.pressure.nominal.read_eq hp⟩
    | shutoffArm => exact ⟨_, h.pressure.shutoffArm.read_eq hp, UInt64.toNat_lt _⟩
    | shutoffEnabled => exact ⟨_, h.pressure.shutoffEnabled.read_eq hp⟩
    | loadCellHz => exact ⟨_, h.sampling.loadCell.read_eq hp, UInt32.toNat_lt _⟩
    | pressureHz => exact ⟨_, h.sampling.pressure.read_eq hp, UInt32.toNat_lt _⟩
    | thermocoupleHz => exact ⟨_, h.sampling.thermocouple.read_eq hp, UInt32.toNat_lt _⟩
    | useGitvc => exact ⟨_, h.gitvc.enabled.read_eq hp⟩
    | gitvcTimes =>
      have hcounts : optional [] counts t "Luna" "gitvc_times_ms" = .ok c.gitvc.pulsesMs :=
        optional_counts_eq_ok_iff.mpr h.gitvc.pulses
      rw [optional_eq_ok_iff] at hcounts
      exact counts_serves.accepts_iff.mpr ⟨_, hcounts.read_eq hp⟩
    | gitvcWait => exact ⟨_, h.gitvc.wait.read_eq hp, UInt32.toNat_lt _⟩
    | gitvcBetween => exact ⟨_, h.gitvc.between.read_eq hp, UInt32.toNat_lt _⟩

theorem Follows.unique (h : c.Follows t) (h' : c'.Follows t) : c = c' := by
  obtain ⟨hn, hk, hs, hp, hr, hg⟩ := follows_iff.mp h
  obtain ⟨hn', hk', hs', hp', hr', hg'⟩ := follows_iff.mp h'
  rw [StandConfig.mk.injEq]
  refine ⟨?_, ?_, ?_, ?_, ?_, ?_⟩
  · exact Except.ok.inj (hn.symm.trans hn')
  · exact Except.ok.inj (hk.symm.trans hk')
  · exact Except.ok.inj (hs.symm.trans hs')
  · exact Except.ok.inj (hp.symm.trans hp')
  · exact Except.ok.inj (hr.symm.trans hr')
  · exact Except.ok.inj (hg.symm.trans hg')

theorem exists_follows (h : t.Readable) : ∃ c : StandConfig, c.Follows t := by
  obtain ⟨n, hn⟩ := h.reads NetworkConfig.ofTree_error
  obtain ⟨k, hk⟩ := h.reads EngineKind.ofTree_error
  obtain ⟨s, hs⟩ := h.reads ScheduleConfig.ofTree_error
  obtain ⟨p, hp⟩ := h.reads PressureConfig.ofTree_error
  obtain ⟨r, hr⟩ := h.reads SamplingConfig.ofTree_error
  obtain ⟨g, hg⟩ := h.reads GitvcConfig.ofTree_error
  exact ⟨⟨n, k, s, p, r, g⟩, follows_iff.mpr ⟨hn, hk, hs, hp, hr, hg⟩⟩

/-- A configuration fit to run with has no more pulses than a plan holds. -/
theorem Follows.profile_follows (h : c.Follows t) (hvalid : c.validate = .ok ())
    (hluna : c.engine = .luna) (henabled : c.gitvc.enabled = true) :
    ∃ plan : GitvcPlan, c.profile = .luna (some plan) ∧ plan.Follows t := by
  obtain ⟨-, -, -, -, hlength, -⟩ := c.flaw?_eq_none_iff.mp (c.validate_eq_ok_iff.mp hvalid)
  have htake : (c.gitvc.pulsesMs.map UInt32.toNat).take GitvcPlan.maxPulses =
      c.gitvc.pulsesMs.map UInt32.toNat := List.take_of_length_le (by simpa using hlength)
  refine ⟨.ofMillis (c.gitvc.pulsesMs.map UInt32.toNat) c.gitvc.waitMs.toNat
    c.gitvc.betweenMs.toNat, ?_, ?_⟩
  · simp only [profile, hluna, henabled, if_true]
  · refine ⟨c.gitvc.pulsesMs.map UInt32.toNat, c.gitvc.waitMs.toNat, c.gitvc.betweenMs.toNat,
      ?_, h.gitvc.wait, h.gitvc.between, ?_⟩
    · rw [List.map_map]
      exact h.gitvc.pulses
    · rw [GitvcPlan.ofMillis, htake]

/-- Which trees hold a configuration, which one each of them holds, and what of it reaches
the engine. -/
theorem ofTree_follows (t : ConfigTree) :
    (∀ c, ofTree t = .ok c ↔ t.Readable ∧ c.Follows t ∧ c.validate = .ok ()) ∧
    (t.Readable → ∃ c : StandConfig, c.Follows t ∧ ∀ c', c'.Follows t → c' = c) ∧
    ∀ c, ofTree t = .ok c → c.engine = .luna → c.gitvc.enabled = true →
      ∃ plan : GitvcPlan, c.profile = .luna (some plan) ∧ plan.Follows t := by
  refine ⟨fun c => ?_, fun hreadable => ?_, fun c hok hluna henabled => ?_⟩
  · rw [ofTree_eq_ok_iff]
    exact ⟨fun ⟨hc, hvalid⟩ => ⟨hc.readable, hc, hvalid⟩, fun ⟨_, h⟩ => h⟩
  · obtain ⟨c, hc⟩ := exists_follows hreadable
    exact ⟨c, hc, fun c' hc' => hc'.unique hc⟩
  · obtain ⟨hc, hvalid⟩ := ofTree_eq_ok_iff.mp hok
    exact hc.profile_follows hvalid hluna henabled

/-- A Luna stand with three pulses, and nothing said about its sensors. -/
def lunaTree : ConfigTree := ⟨[
  ("network", .table [("address", .text "10.0.0.2"), ("port", .text "5005")]),
  ("main", .table [("engine_type", .text "luna")]),
  ("worker", .table [("preignite_ms", .text "500"), ("hotflow_ms", .text "3000")]),
  ("luna", .table [("use_gitvc", .text "yes"), ("gitvc_times_ms", .text "100, 150,200"),
    ("gitvc_wait_ms", .text "5")])]⟩

def lunaConfig : StandConfig where
  network := ⟨"10.0.0.2", 5005, "0.0.0.0", 1234⟩
  engine := .luna
  schedule := ⟨500, 3000, 50⟩
  pressure := ⟨.standard, 1000, true⟩
  sampling := ⟨2000, 500, 20⟩
  gitvc := ⟨true, [100, 150, 200], 5, 100⟩

set_option maxRecDepth 20000 in
theorem ofTree_lunaTree : ofTree lunaTree = .ok lunaConfig := rfl

theorem ofTree_follows_of_luna :
    ofTree lunaTree = .ok lunaConfig ∧ lunaTree.Readable ∧
      (∃ c : StandConfig, c.Follows lunaTree ∧ ∀ c', c'.Follows lunaTree → c' = c) ∧
      lunaConfig.profile =
        .luna (some ⟨5000000, 100000000, [100000000, 150000000, 200000000]⟩) ∧
      ∃ plan : GitvcPlan, lunaConfig.profile = .luna (some plan) ∧ plan.Follows lunaTree := by
  obtain ⟨hiff, hunique, hplan⟩ := ofTree_follows lunaTree
  have hok := ofTree_lunaTree
  have hreadable : lunaTree.Readable := ((hiff lunaConfig).mp hok).1
  have hprofile : lunaConfig.profile =
      .luna (some ⟨5000000, 100000000, [100000000, 150000000, 200000000]⟩) := by decide
  exact ⟨hok, hreadable, hunique hreadable, hprofile, hplan lunaConfig hok rfl rfl⟩

end StandConfig

end HotFire
