import HotFire.Proofs.Sampling.Alarm

/-! Each channel of a pressure guard follows the readings of its own sensor. How the
sensors take turns, and what unguarded ones read, changes no average and no alarm. -/

namespace HotFire

/-- The running average after these readings. -/
def PressureLimits.averaged (l : PressureLimits) (average : Float) (raws : List UInt16) : Float :=
  raws.foldl (fun average raw => average * averageRetain + l.calibrate raw * averageWeight) average

namespace GuardChannel

theorem foldl_fold (c : GuardChannel) (raws : List UInt16) :
    raws.foldl fold c =
      { c with
        average := c.limits.averaged c.average raws
        outside := if raws = [] then c.outside
          else !c.limits.inBounds (c.limits.averaged c.average raws) } := by
  induction raws generalizing c with
  | nil => rfl
  | cons raw raws ih =>
    rw [List.foldl_cons, ih]
    cases raws with
    | nil => rfl
    | cons next raws => rfl

end GuardChannel

namespace PressureGuard

/-- A reading, or a write of the shared shutoff by someone other than the guard. -/
inductive Call where
  | reading (s : Sensor) (raw : UInt16)
  | write (on : Bool)
  deriving DecidableEq

def act (g : PressureGuard) (f : SafetyFlags) : Call → PressureGuard × SafetyFlags
  | .reading s raw => ((g.update s raw f).guard, (g.update s raw f).flags)
  | .write on => (g, f.setShutoff on)

def follow (g : PressureGuard) (f : SafetyFlags) : List Call → PressureGuard × SafetyFlags
  | [] => (g, f)
  | call :: calls => follow (g.act f call).1 (g.act f call).2 calls

def readingsOf (s : Sensor) (calls : List Call) : List UInt16 :=
  calls.filterMap fun
    | .reading t raw => if t = s then some raw else none
    | .write _ => none

/-- A guarded sensor was read, and since then nobody but the guard wrote the shutoff. -/
def Settled (g : PressureGuard) (calls : List Call) : Prop :=
  ∃ earlier s raw later, calls = earlier ++ .reading s raw :: later ∧ g.guards s = true ∧
    ∀ on, .write on ∉ later

theorem follow_append (g : PressureGuard) (f : SafetyFlags) (earlier later : List Call) :
    g.follow f (earlier ++ later) =
      (g.follow f earlier).1.follow (g.follow f earlier).2 later := by
  induction earlier generalizing g f with
  | nil => rfl
  | cons call earlier ih => exact ih (g.act f call).1 (g.act f call).2

theorem follow_channel? (g : PressureGuard) (f : SafetyFlags) (calls : List Call) (s : Sensor) :
    (g.follow f calls).1.channel? s =
      (g.channel? s).map fun c => (readingsOf s calls).foldl GuardChannel.fold c := by
  induction calls generalizing g f with
  | nil => simp [follow, readingsOf]
  | cons call calls ih =>
    have hrest := ih (g.act f call).1 (g.act f call).2
    cases call with
    | write on => exact hrest
    | reading t raw =>
      have hchannel : (g.act f (.reading t raw)).1.channel? s =
          if t = s then (g.channel? s).map (·.fold raw) else g.channel? s :=
        g.update_channel? s t raw f
      rw [hchannel] at hrest
      refine hrest.trans ?_
      by_cases ht : t = s
      · have hread : readingsOf s (.reading t raw :: calls) = raw :: readingsOf s calls := by
          simp [readingsOf, ht]
        rw [if_pos ht, Option.map_map, hread]
        rfl
      · have hskip : readingsOf s (.reading t raw :: calls) = readingsOf s calls := by
          simp [readingsOf, ht]
        rw [if_neg ht, hskip]

theorem follow_sensors (g : PressureGuard) (f : SafetyFlags) (calls : List Call) :
    (g.follow f calls).1.sensors = g.sensors := by
  induction calls generalizing g f with
  | nil => rfl
  | cons call calls ih =>
    have hact : (g.act f call).1.sensors = g.sensors := by
      cases call with
      | write on => rfl
      | reading s raw => exact g.update_sensors s raw f
    exact (ih _ _).trans hact

theorem follow_agrees {g : PressureGuard} {f : SafetyFlags} (h : f.shutoff = g.shutoff)
    {calls : List Call} (hno : ∀ on, .write on ∉ calls) :
    (g.follow f calls).2.shutoff = (g.follow f calls).1.shutoff := by
  induction calls generalizing g f with
  | nil => exact h
  | cons call calls ih =>
    have hlater : ∀ on, .write on ∉ calls := fun on hm => hno on (List.mem_cons_of_mem _ hm)
    cases call with
    | write on => exact absurd List.mem_cons_self (hno on)
    | reading s raw => exact ih (update_agrees (.inl h) raw) hlater

theorem Settled.agrees {g : PressureGuard} {calls : List Call} (h : g.Settled calls)
    (f : SafetyFlags) : (g.follow f calls).2.shutoff = (g.follow f calls).1.shutoff := by
  obtain ⟨earlier, s, raw, later, rfl, hs, hno⟩ := h
  rw [follow_append]
  have hmem : s ∈ (g.follow f earlier).1.sensors := by
    rw [follow_sensors]
    exact (g.guards_iff s).mp hs
  exact follow_agrees (update_agrees (.inr hmem) raw) hno

/-- With one channel for each sensor, the guard asks for a shutoff when the channel that
some sensor finds is outside its bounds. -/
theorem shutoff_iff {g : PressureGuard} (hnd : g.sensors.Nodup) :
    g.shutoff = true ↔ ∃ s c, g.channel? s = some c ∧ c.outside = true := by
  rw [shutoff, List.any_eq_true]
  constructor
  · rintro ⟨c, hc, hout⟩
    exact ⟨c.sensor, c, channel?_of_mem hnd hc, hout⟩
  · rintro ⟨s, c, hc, hout⟩
    exact ⟨c, List.mem_of_find?_eq_some hc, hout⟩

section specs

variable {specs : List SensorSpec} {g : PressureGuard}

theorem exists_ofSpecs? (hsize : specs.length ≤ SensorGroup.maxSensors)
    (hlimits : ∃ spec ∈ specs, spec.limits ≠ none) : ∃ g, ofSpecs? specs = some g := by
  let group : SensorGroup := ⟨"", 0, specs⟩
  have hlimited : group.limited ≠ [] := by
    intro hnil
    obtain ⟨spec, hm, hne⟩ := hlimits
    exact hne (SensorGroup.limited_eq_nil_iff.mp hnil spec hm)
  have hwatched := ofSpecs?_watched (g := group) hsize
  rw [if_neg hlimited] at hwatched
  obtain ⟨g, hg, -⟩ := Option.map_eq_some_iff.mp hwatched
  exact ⟨g, hg⟩

theorem ofSpecs?_nodup (hsize : specs.length ≤ SensorGroup.maxSensors)
    (hdistinct : (specs.map (·.sensor)).Nodup) (hg : ofSpecs? specs = some g) :
    g.sensors.Nodup := by
  let group : SensorGroup := ⟨"", 0, specs⟩
  have hwatched := ofSpecs?_watched (g := group) hsize
  rw [show ofSpecs? group.sensors = some g from hg] at hwatched
  by_cases hnil : group.limited = []
  · rw [if_pos hnil] at hwatched
    cases hwatched
  · rw [if_neg hnil] at hwatched
    exact SamplingLoop.guard_sensors_nodup hdistinct (Option.some.inj hwatched)

/-- A new guard has a channel at its nominal value for each sensor that has limits. -/
theorem ofSpecs?_channel?_iff (hsize : specs.length ≤ SensorGroup.maxSensors)
    (hdistinct : (specs.map (·.sensor)).Nodup) (hg : ofSpecs? specs = some g) {s : Sensor}
    {c : GuardChannel} : g.channel? s = some c ↔
      ∃ spec ∈ specs, ∃ limits, spec.sensor = s ∧ spec.limits = some limits ∧
        c = .start s limits := by
  have hchannels : g.channels =
      specs.filterMap fun s => s.limits.map (GuardChannel.start s.sensor) := by
    simp only [ofSpecs?, Option.ite_none_left_eq_some, Option.some.injEq] at hg
    obtain ⟨-, rfl⟩ := hg
    exact List.take_of_length_le (Nat.le_trans (List.length_filterMap_le _ _) hsize)
  constructor
  · intro hc
    have hm := List.mem_of_find?_eq_some hc
    rw [hchannels] at hm
    obtain ⟨spec, hspec, hstart⟩ := List.mem_filterMap.mp hm
    obtain ⟨limits, hlim, rfl⟩ := Option.map_eq_some_iff.mp hstart
    have hs := channel?_sensor hc
    exact ⟨spec, hspec, limits, hs, hlim, by rw [← hs]; rfl⟩
  · rintro ⟨spec, hspec, limits, rfl, hlim, rfl⟩
    refine channel?_of_mem (ofSpecs?_nodup hsize hdistinct hg) (c := .start spec.sensor limits) ?_
    rw [hchannels]
    exact List.mem_filterMap.mpr ⟨spec, hspec, by rw [hlim]; rfl⟩

/-- The channel that finds a sensor after some calls has folded just what the sensor read. -/
theorem follow_channel?_iff (hsize : specs.length ≤ SensorGroup.maxSensors)
    (hdistinct : (specs.map (·.sensor)).Nodup) (hg : ofSpecs? specs = some g)
    (f : SafetyFlags) (calls : List Call) {s : Sensor} {c : GuardChannel} :
    (g.follow f calls).1.channel? s = some c ↔
      ∃ spec ∈ specs, ∃ limits, spec.sensor = s ∧ spec.limits = some limits ∧
        c = (readingsOf s calls).foldl GuardChannel.fold (.start s limits) := by
  rw [follow_channel?, Option.map_eq_some_iff]
  constructor
  · rintro ⟨d, hd, rfl⟩
    obtain ⟨spec, hspec, limits, hs, hlim, rfl⟩ :=
      (ofSpecs?_channel?_iff hsize hdistinct hg).mp hd
    exact ⟨spec, hspec, limits, hs, hlim, rfl⟩
  · rintro ⟨spec, hspec, limits, hs, hlim, rfl⟩
    have hstart := (ofSpecs?_channel?_iff hsize hdistinct hg).mpr
      ⟨spec, hspec, limits, hs, hlim, rfl⟩
    exact ⟨_, hstart, rfl⟩

theorem follow_average? (hsize : specs.length ≤ SensorGroup.maxSensors)
    (hdistinct : (specs.map (·.sensor)).Nodup) (hg : ofSpecs? specs = some g)
    (f : SafetyFlags) (calls : List Call) {spec : SensorSpec} (hspec : spec ∈ specs)
    {limits : PressureLimits} (hlim : spec.limits = some limits) :
    (g.follow f calls).1.average? spec.sensor =
      some (limits.averaged limits.nominal (readingsOf spec.sensor calls)) := by
  have hchannel := (follow_channel?_iff hsize hdistinct hg f calls).mpr
    ⟨spec, hspec, limits, rfl, hlim, rfl⟩
  rw [average?, hchannel, Option.map_some, GuardChannel.foldl_fold]
  rfl

/-- Some guarded sensor was read, and its average is out of bounds. -/
def Alarming (specs : List SensorSpec) (calls : List Call) : Prop :=
  ∃ spec ∈ specs, ∃ limits, spec.limits = some limits ∧ readingsOf spec.sensor calls ≠ [] ∧
    limits.inBounds (limits.averaged limits.nominal (readingsOf spec.sensor calls)) = false

theorem follow_shutoff_iff (hsize : specs.length ≤ SensorGroup.maxSensors)
    (hdistinct : (specs.map (·.sensor)).Nodup) (hg : ofSpecs? specs = some g)
    (f : SafetyFlags) (calls : List Call) :
    (g.follow f calls).1.shutoff = true ↔ Alarming specs calls := by
  have hnd : (g.follow f calls).1.sensors.Nodup := by
    rw [follow_sensors]
    exact ofSpecs?_nodup hsize hdistinct hg
  rw [shutoff_iff hnd]
  constructor
  · rintro ⟨s, c, hc, hout⟩
    obtain ⟨spec, hspec, limits, rfl, hlim, rfl⟩ :=
      (follow_channel?_iff hsize hdistinct hg f calls).mp hc
    rw [GuardChannel.foldl_fold] at hout
    by_cases hnone : readingsOf spec.sensor calls = []
    · simp [hnone, GuardChannel.start] at hout
    · simp only [hnone, if_false, Bool.not_eq_true'] at hout
      exact ⟨spec, hspec, limits, hlim, hnone, hout⟩
  · rintro ⟨spec, hspec, limits, hlim, hread, hout⟩
    have hchannel := (follow_channel?_iff hsize hdistinct hg f calls).mpr
      ⟨spec, hspec, limits, rfl, hlim, rfl⟩
    refine ⟨spec.sensor, _, hchannel, ?_⟩
    rw [GuardChannel.foldl_fold]
    simp only [hread, if_false, Bool.not_eq_true']
    exact hout

theorem Alarming.congr {calls others : List Call}
    (h : ∀ spec ∈ specs, spec.limits ≠ none →
      readingsOf spec.sensor calls = readingsOf spec.sensor others)
    (halarm : Alarming specs calls) : Alarming specs others := by
  obtain ⟨spec, hspec, limits, hlim, hread, hout⟩ := halarm
  have hsame := h spec hspec (by rw [hlim]; exact Option.some_ne_none limits)
  rw [hsame] at hread hout
  exact ⟨spec, hspec, limits, hlim, hread, hout⟩

/-- Only what each guarded sensor read matters. Of two runs of a guard in which every guarded
sensor read the same, in whatever turns, with whatever unguarded readings and writes of the
shutoff between them, all averages agree, and each is its sensor's readings blended into the
nominal value; so does the guard's own shutoff. The shared one agrees when nobody else wrote it
last, and is then set exactly if a sensor that was read has its average out of bounds. -/
theorem own_readings_decide (hsize : specs.length ≤ SensorGroup.maxSensors)
    (hdistinct : (specs.map (·.sensor)).Nodup) (hlimits : ∃ spec ∈ specs, spec.limits ≠ none) :
    ∃ g, ofSpecs? specs = some g ∧ ∀ (calls others : List Call) (f f' : SafetyFlags),
      (∀ spec ∈ specs, spec.limits ≠ none →
        readingsOf spec.sensor calls = readingsOf spec.sensor others) →
      let one := g.follow f calls
      let other := g.follow f' others
      (∀ s, one.1.average? s = other.1.average? s) ∧
      (∀ spec ∈ specs, ∀ limits, spec.limits = some limits → one.1.average? spec.sensor =
        some (limits.averaged limits.nominal (readingsOf spec.sensor calls))) ∧
      one.1.shutoff = other.1.shutoff ∧
      (g.Settled calls → g.Settled others → one.2.shutoff = other.2.shutoff ∧
        (one.2.shutoff = true ↔ Alarming specs calls)) := by
  obtain ⟨g, hg⟩ := exists_ofSpecs? hsize hlimits
  refine ⟨g, hg, fun calls others f f' hsame => ?_⟩
  intro one other
  have hone : one.1.shutoff = true ↔ Alarming specs calls :=
    follow_shutoff_iff hsize hdistinct hg f calls
  have hother : other.1.shutoff = true ↔ Alarming specs others :=
    follow_shutoff_iff hsize hdistinct hg f' others
  have halarm : Alarming specs calls ↔ Alarming specs others :=
    ⟨.congr hsame, .congr fun spec hm hne => (hsame spec hm hne).symm⟩
  have hshutoff : one.1.shutoff = other.1.shutoff := by
    rw [Bool.eq_iff_iff, hone, hother, halarm]
  refine ⟨fun s => ?_, fun spec hspec limits hlim => ?_, hshutoff, fun hsettled hsettled' => ?_⟩
  · rw [average?, average?, follow_channel?, follow_channel?]
    cases hc : g.channel? s with
    | none => rfl
    | some c =>
      obtain ⟨spec, hspec, limits, rfl, hlim, -⟩ :=
        (ofSpecs?_channel?_iff hsize hdistinct hg).mp hc
      have hread := hsame spec hspec (by rw [hlim]; exact Option.some_ne_none limits)
      rw [hread]
  · exact follow_average? hsize hdistinct hg f calls hspec hlim
  · rw [hsettled.agrees f, hsettled'.agrees f']
    exact ⟨hshutoff, hone⟩

end specs

/-- Two transducers in either order, of which the first leaves its bounds and stays there while
the second reads well. -/
theorem own_readings_decide_of_turns :
    let limits : PressureLimits := ⟨1.0, 0.0, 0.0, 100.0, 99.0⟩
    let specs := [(SensorSpec.ofSensor .pt1).withLimits limits,
      (SensorSpec.ofSensor .pt2).withLimits limits, SensorSpec.ofSensor .pt3]
    let g : PressureGuard := ⟨[.start .pt1 limits, .start .pt2 limits]⟩
    let calls : List Call :=
      [.reading .pt1 200, .write false, .reading .pt3 7, .reading .pt2 50, .reading .pt3 8]
    let others : List Call := [.write true, .reading .pt2 50, .reading .pt1 200]
    specs.length ≤ SensorGroup.maxSensors ∧ (specs.map (·.sensor)).Nodup ∧
      ofSpecs? specs = some g ∧ g.Settled calls ∧ g.Settled others ∧
      (g.follow {} calls).2.shutoff = true ∧ (g.follow {} others).2.shutoff = true := by
  intro limits specs g calls others
  have hsize : specs.length ≤ SensorGroup.maxSensors := by decide
  have hdistinct : (specs.map (·.sensor)).Nodup := by decide
  have hlimits : ∃ spec ∈ specs, spec.limits ≠ none :=
    ⟨(SensorSpec.ofSensor .pt1).withLimits limits, List.mem_cons_self, Option.some_ne_none limits⟩
  obtain ⟨g', hg, hruns⟩ := own_readings_decide hsize hdistinct hlimits
  obtain rfl : g = g' := Option.some.inj hg
  have hsettled : g.Settled calls :=
    ⟨[.reading .pt1 200, .write false, .reading .pt3 7], .pt2, 50, [.reading .pt3 8], rfl, rfl,
      by simp⟩
  have hsettled' : g.Settled others :=
    ⟨[.write true, .reading .pt2 50], .pt1, 200, [], rfl, rfl, by simp⟩
  have hsame : ∀ spec ∈ specs, spec.limits ≠ none →
      readingsOf spec.sensor calls = readingsOf spec.sensor others := by
    intro spec hspec hne
    simp only [specs, List.mem_cons, List.not_mem_nil, or_false] at hspec
    rcases hspec with rfl | rfl | rfl
    · rfl
    · rfl
    · exact absurd rfl hne
  have halarm : Alarming specs calls :=
    ⟨(SensorSpec.ofSensor .pt1).withLimits limits, List.mem_cons_self, limits, rfl, by decide,
      by decide⟩
  obtain ⟨-, -, -, hflag⟩ := hruns calls others {} {} hsame
  obtain ⟨hagree, hset⟩ := hflag hsettled hsettled'
  have htrue := hset.mpr halarm
  exact ⟨hsize, hdistinct, hg, hsettled, hsettled', htrue, hagree.symm.trans htrue⟩

end PressureGuard

end HotFire
