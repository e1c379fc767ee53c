import HotFire.Proofs.Config.Reading

/-! What a value that is not accepted does to a configuration. A key that is read has
the tree refused, and is named. A number of the shutoff that comes after a missing one
is not read, and what stands there changes nothing. -/

namespace HotFire

open Reader

theorem bind_congr_of_ok {ε α β : Type} {x y : Except ε α} {f g : α → Except ε β} (h : x = y)
    (hfg : ∀ a, y = .ok a → f a = g a) : x >>= f = y >>= g := by
  subst h
  cases x with
  | error e => rfl
  | ok a => exact hfg a rfl

variable {t t' : ConfigTree} {e : ConfigError}

theorem NetworkConfig.ofTree_congr (h : ∀ k ∉ ConfigKey.shutoff, k.Same t' t) :
    ofTree t' = ofTree t := by
  have hport := narrowed_lawful uint16?
  refine bind_congr_of_ok (string_lawful.congr (h .address (by decide))) fun _ _ => ?_
  refine bind_congr_of_ok (hport.congr (h .port (by decide))) fun _ _ => ?_
  refine bind_congr_of_ok (string_lawful.optional_congr (h .listenAddress (by decide))) ?_
  intro _ _
  refine bind_congr_of_ok (hport.optional_congr (h .commandPort (by decide))) fun _ _ => ?_
  rfl

theorem EngineKind.ofTree_congr (h : ∀ k ∉ ConfigKey.shutoff, k.Same t' t) :
    ofTree t' = ofTree t :=
  engineKind_lawful.congr (h .engine (by decide))

theorem ScheduleConfig.ofTree_congr (h : ∀ k ∉ ConfigKey.shutoff, k.Same t' t) :
    ofTree t' = ofTree t := by
  have hmillis := narrowed_lawful uint64?
  refine bind_congr_of_ok (hmillis.congr (h .preignite (by decide))) fun _ _ => ?_
  refine bind_congr_of_ok (hmillis.congr (h .hotflow (by decide))) fun _ _ => ?_
  refine bind_congr_of_ok (hmillis.optional_congr (h .poll (by decide))) fun _ _ => ?_
  rfl

/-- A number of the shutoff is read only once those before it have been. -/
theorem PressureLimits.ofTree_congr (h : ∀ k ∈ ConfigKey.shutoff, ¬ k.Shadowed t → k.Same t' t) :
    ofTree t' = ofTree t := by
  have hread : ∀ k ∈ ConfigKey.shutoff, (∀ k' ∈ k.earlier, k'.Accepted t) →
      t'.double k.table k.name = t.double k.table k.name :=
    fun k hk hearlier => double_lawful.congr (h k hk (ConfigKey.not_shadowed_of_accepted hearlier))
  refine bind_congr_of_ok (hread .pressureMax (by decide) ?_) fun max hmax => ?_
  · simp [ConfigKey.earlier]
  have hmax : ConfigKey.pressureMax.Accepted t := ⟨max, hmax⟩
  refine bind_congr_of_ok (hread .pressureMin (by decide) ?_) fun min hmin => ?_
  · simp [ConfigKey.earlier, hmax]
  have hmin : ConfigKey.pressureMin.Accepted t := ⟨min, hmin⟩
  refine bind_congr_of_ok (hread .slope (by decide) ?_) fun slope hslope => ?_
  · simp [ConfigKey.earlier, hmax, hmin]
  have hslope : ConfigKey.slope.Accepted t := ⟨slope, hslope⟩
  refine bind_congr_of_ok (hread .intercept (by decide) ?_) fun _ _ => ?_
  · simp [ConfigKey.earlier, hmax, hmin, hslope]
  rfl

theorem PressureConfig.ofTree_congr (h : ∀ k : ConfigKey, ¬ k.Shadowed t → k.Same t' t) :
    ofTree t' = ofTree t := by
  have hrest : ∀ k ∉ ConfigKey.shutoff, k.Same t' t :=
    fun k hk => h k (ConfigKey.not_shadowed_of_not_mem hk)
  have hlimits := PressureLimits.ofTree_congr fun k _ => h k
  refine bind_congr_of_ok ?_ fun _ _ => ?_
  · rw [PressureLimits.ofTreeOrStandard, PressureLimits.ofTreeOrStandard, hlimits]
  refine bind_congr_of_ok (double_lawful.optional_congr (hrest .nominal (by decide))) fun _ _ => ?_
  refine bind_congr_of_ok
    ((narrowed_lawful uint64?).optional_congr (hrest .shutoffArm (by decide))) fun _ _ => ?_
  refine bind_congr_of_ok (bool_lawful.optional_congr (hrest .shutoffEnabled (by decide))) ?_
  intro _ _
  rfl

theorem SamplingConfig.ofTree_congr (h : ∀ k ∉ ConfigKey.shutoff, k.Same t' t) :
    ofTree t' = ofTree t := by
  have hcount := narrowed_lawful uint32?
  refine bind_congr_of_ok (hcount.optional_congr (h .loadCellHz (by decide))) fun _ _ => ?_
  refine bind_congr_of_ok (hcount.optional_congr (h .pressureHz (by decide))) fun _ _ => ?_
  refine bind_congr_of_ok (hcount.optional_congr (h .thermocoupleHz (by decide))) fun _ _ => ?_
  rfl

theorem GitvcConfig.ofTree_congr (h : ∀ k ∉ ConfigKey.shutoff, k.Same t' t) :
    ofTree t' = ofTree t := by
  have hcount := narrowed_lawful uint32?
  refine bind_congr_of_ok (bool_lawful.optional_congr (h .useGitvc (by decide))) fun _ _ => ?_
  refine bind_congr_of_ok (counts_lawful.optional_congr (h .gitvcTimes (by decide))) fun _ _ => ?_
  refine bind_congr_of_ok (hcount.optional_congr (h .gitvcWait (by decide))) fun _ _ => ?_
  refine bind_congr_of_ok (hcount.optional_congr (h .gitvcBetween (by decide))) fun _ _ => ?_
  rfl

namespace StandConfig

variable {c : StandConfig} {k : ConfigKey}

theorem ofTree_congr (h : ∀ k : ConfigKey, ¬ k.Shadowed t → k.Same t' t) :
    ofTree t' = ofTree t := by
  have hrest : ∀ k ∉ ConfigKey.shutoff, k.Same t' t :=
    fun k hk => h k (ConfigKey.not_shadowed_of_not_mem hk)
  rw [ofTree, ofTree, NetworkConfig.ofTree_congr hrest, EngineKind.ofTree_congr hrest,
    ScheduleConfig.ofTree_congr hrest, PressureConfig.ofTree_congr h,
    SamplingConfig.ofTree_congr hrest, GitvcConfig.ofTree_congr hrest]

/-- Where one key of a readable tree comes to hold what is not accepted, no other key is at
fault. -/
theorem eq_of_faults (ht : t.Readable) (hsame : ∀ k', k' ≠ k → k'.Same t' t)
    (hbad : ¬ k.Accepted t') {k' : ConfigKey} (hfaults : k'.Faults t' e) : k' = k := by
  refine Decidable.byContradiction fun hne => ?_
  have hpresent := (hsame k' hne).present_iff
  have haccepted := (hsame k' hne).accepted_iff
  cases hfaults with
  | missing hk habsent => exact habsent (hpresent.mpr (ht.present k' hk))
  | refused text hearlier hp ha =>
    have hreached : ∀ k₁ ∈ k'.earlier, k₁.Accepted t := by
      intro k₁ hk₁
      by_cases hk : k₁ = k
      · exact (hbad (hk ▸ hearlier k₁ hk₁)).elim
      · exact (hsame k₁ hk).accepted_iff.mp (hearlier k₁ hk₁)
    have hread := ConfigKey.not_shadowed_of_accepted hreached
    exact ha (haccepted.mpr (ht.accepted k' (hpresent.mp hp) hread))

/-- In a tree that holds a configuration, every key that is there is accepted or shadowed.
Put a value that is not accepted at any one key: if the key is shadowed the configuration is
the same, and if not the tree is refused for that key. -/
theorem ofTree_of_refused (hok : ofTree t = .ok c) :
    (∀ k : ConfigKey, k.Present t → k.Accepted t ∨ k.Shadowed t) ∧
    ∀ (t' : ConfigTree) (k : ConfigKey), (∀ k', k' ≠ k → k'.Same t' t) → k.Present t' →
      ¬ k.Accepted t' →
      (k.Shadowed t → ofTree t' = .ok c) ∧
      (¬ k.Shadowed t → ∃ text, ofTree t' = .error (.invalidValue k.table k.name text)) := by
  have ht : t.Readable := (ofTree_eq_ok_iff.mp hok).1.readable
  refine ⟨fun k hp => ?_, fun t' k hsame hp hbad => ⟨fun hs => ?_, fun hs => ?_⟩⟩
  · by_cases hs : k.Shadowed t
    · exact .inr hs
    · exact .inl (ht.accepted k hp hs)
  · rw [← hok]
    refine ofTree_congr fun k' hk' => hsame k' fun heq => ?_
    exact hk' (heq ▸ hs)
  · have hread : ¬ k.Shadowed t' := fun h => hs ((ConfigKey.shadowed_congr hsame).mp h)
    cases he : ofTree t' with
    | ok c' => exact (hbad ((ofTree_eq_ok_iff.mp he).1.readable.accepted k hp hread)).elim
    | error e =>
      rcases ofTree_error he with ⟨k', hfaults⟩ | ⟨c', hc', -⟩
      · cases eq_of_faults ht hsame hbad hfaults
        cases hfaults with
        | missing _ habsent => exact (habsent hp).elim
        | refused text => exact ⟨text, rfl⟩
      · exact (hbad (hc'.readable.accepted k hp hread)).elim

/-- The same stand with a rate that is no number. -/
theorem ofTree_of_refused_rate :
    let t' : ConfigTree := ⟨lunaTree.root ++ [("sampling", .table [("pt_hz", .text "fast")])]⟩
    ofTree lunaTree = .ok lunaConfig ∧ ConfigKey.pressureHz.Present t' ∧
      ¬ ConfigKey.pressureHz.Accepted t' ∧
      ∃ text, ofTree t' = .error (.invalidValue "Sampling" "pt_hz" text) := by
  intro t'
  have hok : ofTree lunaTree = .ok lunaConfig := ofTree_lunaTree
  have hsame : ∀ k', k' ≠ ConfigKey.pressureHz → k'.Same t' lunaTree := by
    intro k' hne
    cases k' with
    | pressureHz => exact (hne rfl).elim
    | _ => rfl
  have hp : ConfigKey.pressureHz.Present t' := rfl
  have hbad : ¬ ConfigKey.pressureHz.Accepted t' := by
    rintro ⟨n, hn, -⟩
    cases hn
  obtain ⟨-, hchange⟩ := ofTree_of_refused hok
  have hread : ¬ ConfigKey.pressureHz.Shadowed lunaTree :=
    ConfigKey.not_shadowed_of_not_mem (by decide)
  exact ⟨hok, hp, hbad, (hchange t' .pressureHz hsame hp hbad).2 hread⟩

/-- A slope that is no number, without the two limits that are read before it: the stand is
configured as if it were not there. -/
theorem slope_unread :
    let t : ConfigTree := ⟨lunaTree.root ++ [("pressure", .table [("slope", .text "abc")])]⟩
    ofTree t = .ok lunaConfig ∧ ConfigKey.slope.Present t ∧ ¬ ConfigKey.slope.Accepted t := by
  intro t
  refine ⟨ofTree_lunaTree, rfl, ?_⟩
  rintro ⟨x, hx⟩
  cases hx

end StandConfig

end HotFire
