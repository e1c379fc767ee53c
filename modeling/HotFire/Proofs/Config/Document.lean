import HotFire.Config.Document
import HotFire.Proofs.Config.Reading
import HotFire.Proofs.Json.Text

/-! What a configuration is after it has been written as a document and read back. All of
it comes back but perhaps the five numbers of the pressure limits. -/

namespace HotFire

theorem mapM_zip {α β : Type} {f : α → Option β} {xs : List α} {ys : List β}
    (hlen : xs.length = ys.length) (h : ∀ p ∈ xs.zip ys, f p.1 = some p.2) :
    xs.mapM f = some ys := by
  induction xs generalizing ys with
  | nil =>
    rw [List.eq_nil_of_length_eq_zero hlen.symm]
    rfl
  | cons x xs ih =>
    cases ys with
    | nil => cases hlen
    | cons y ys =>
      have hx : f x = some y := h (x, y) (by simp)
      have hxs := ih (Nat.succ.inj hlen) fun p hp => h p (by simp [hp])
      simp [List.mapM_cons, hx, hxs]

theorem mapM_map_some {α β : Type} {f : β → Option α} {g : α → β} (h : ∀ x, f (g x) = some x)
    (xs : List α) : (xs.map g).mapM f = some xs := by
  induction xs with
  | nil => rfl
  | cons x xs ih => simp [List.mapM_cons, h, ih]

namespace JsonValue

/-- A name that no other member has finds its own value. -/
theorem only?_zip {names : List String} (hnd : names.Nodup) {values : List JsonValue}
    {name : String} {v : JsonValue} (h : (name, v) ∈ names.zip values) :
    only? ((names.map some).zip values) name = some v := by
  have hfilter : ((names.map some).zip values).filter (·.1 == some name) = [(some name, v)] := by
    induction names generalizing values with
    | nil => simp at h
    | cons n ns ih =>
      obtain ⟨hn, hnd⟩ := List.nodup_cons.mp hnd
      cases values with
      | nil => simp at h
      | cons w ws =>
        rw [List.zip_cons_cons, List.mem_cons] at h
        rcases h with he | h
        · obtain ⟨rfl, rfl⟩ := Prod.mk.inj he
          have hrest : ((ns.map some).zip ws).filter (·.1 == some name) = [] := by
            rw [List.filter_eq_nil_iff]
            rintro ⟨k, x⟩ hk heq
            obtain ⟨m, hm, rfl⟩ := List.mem_map.mp (List.of_mem_zip hk).1
            exact hn (Option.some.inj (eq_of_beq heq) ▸ hm)
          simp [hrest]
        · have hne : n ≠ name := fun he => hn (he ▸ (List.of_mem_zip h).1)
          simp [hne, ih hnd h]
  rw [only?, hfilter]

theorem fields?_ofFields {names : List String} (hnd : names.Nodup) {values : List JsonValue}
    (hlen : names.length = values.length) : fields? names (ofFields names values) = some values := by
  have hnamed : ((names.map some).zip values).all (·.1.isSome) = true := by
    rw [List.all_eq_true]
    rintro ⟨k, v⟩ hk
    obtain ⟨n, -, rfl⟩ := List.mem_map.mp (List.of_mem_zip hk).1
    rfl
  rw [ofFields, fields?, if_pos hnamed]
  exact mapM_zip hlen fun p hp => only?_zip hnd hp

theorem ofFields_wellFormed {names : List String} {values : List JsonValue}
    (h : ∀ v ∈ values, v.WellFormed) : (ofFields names values).WellFormed := by
  refine .object ?_ ?_
  · rintro ⟨k, v⟩ hk
    obtain ⟨n, -, rfl⟩ := List.mem_map.mp (List.of_mem_zip hk).1
    rfl
  · rintro ⟨k, v⟩ hk
    exact h v (List.of_mem_zip hk).2

theorem ofNat_wellFormed (n : Nat) : (ofNat n).WellFormed :=
  .number (JsonNumber.ofNat_wellFormed n)

theorem ofFloat_wellFormed (x : Float) : (ofFloat x).WellFormed := by
  rw [ofFloat]
  cases h : JsonNumber.ofFloat? x with
  | none => exact .null
  | some n => exact .number (JsonNumber.ofFloat?_wellFormed h)

theorem natural?_ofNat {n bound : Nat} (h : n < bound) : (ofNat n).natural? bound = some n := by
  simp [ofNat, natural?, h]

@[simp] theorem uint16?_ofNat (n : UInt16) : (ofNat n.toNat).uint16? = some n := by
  simp [uint16?, natural?_ofNat n.toNat_lt]

@[simp] theorem uint32?_ofNat (n : UInt32) : (ofNat n.toNat).uint32? = some n := by
  simp [uint32?, natural?_ofNat n.toNat_lt]

@[simp] theorem uint64?_ofNat (n : UInt64) : (ofNat n.toNat).uint64? = some n := by
  simp [uint64?, natural?_ofNat n.toNat_lt]

@[simp] theorem bool?_bool (b : Bool) : (bool b).bool? = some b := rfl

@[simp] theorem string?_string (s : String) : (string (some s)).string? = some s := rfl

end JsonValue

open JsonValue

namespace EngineKind

theorem ofJson?_toJson (k : EngineKind) : ofJson? k.toJson = some k := by
  cases k <;> rfl

end EngineKind

namespace NetworkConfig

theorem ofJson?_toJson (c : NetworkConfig) : ofJson? c.toJson = some c := by
  have hnames : names.Nodup := by decide
  rw [ofJson?, toJson, fields?_ofFields hnames rfl]
  simp

theorem toJson_wellFormed (c : NetworkConfig) : c.toJson.WellFormed := by
  refine ofFields_wellFormed ?_
  simp [ofNat_wellFormed, WellFormed.string]

end NetworkConfig

namespace ScheduleConfig

theorem ofJson?_toJson (c : ScheduleConfig) : ofJson? c.toJson = some c := by
  have hnames : names.Nodup := by decide
  rw [ofJson?, toJson, fields?_ofFields hnames rfl]
  simp

theorem toJson_wellFormed (c : ScheduleConfig) : c.toJson.WellFormed := by
  refine ofFields_wellFormed ?_
  simp [ofNat_wellFormed]

end ScheduleConfig

namespace SamplingConfig

theorem ofJson?_toJson (c : SamplingConfig) : ofJson? c.toJson = some c := by
  have hnames : names.Nodup := by decide
  rw [ofJson?, toJson, fields?_ofFields hnames rfl]
  simp

theorem toJson_wellFormed (c : SamplingConfig) : c.toJson.WellFormed := by
  refine ofFields_wellFormed ?_
  simp [ofNat_wellFormed]

end SamplingConfig

namespace GitvcConfig

theorem ofJson?_toJson (c : GitvcConfig) : ofJson? c.toJson = some c := by
  have hnames : names.Nodup := by decide
  rw [ofJson?, toJson, fields?_ofFields hnames rfl]
  simp [list?, mapM_map_some uint32?_ofNat]

theorem toJson_wellFormed (c : GitvcConfig) : c.toJson.WellFormed := by
  have hpulses : (JsonValue.array (c.pulsesMs.map fun p => ofNat p.toNat)).WellFormed := by
    refine .array ?_
    simp [ofNat_wellFormed]
  refine ofFields_wellFormed ?_
  simp [ofNat_wellFormed, WellFormed.bool, hpulses]

end GitvcConfig

/-- A double after it has been written and read. -/
def reread? (x : Float) : Option Float := (ofFloat x).double?

namespace PressureLimits

/-- The five numbers as a document has them. -/
def numbers (l : PressureLimits) : List Float := [l.max, l.min, l.slope, l.intercept, l.nominal]

def reread? (l : PressureLimits) : Option PressureLimits := do
  let max ← HotFire.reread? l.max
  let min ← HotFire.reread? l.min
  let slope ← HotFire.reread? l.slope
  let intercept ← HotFire.reread? l.intercept
  let nominal ← HotFire.reread? l.nominal
  return { slope, intercept, min, max, nominal }

end PressureLimits

namespace PressureConfig

theorem ofJson?_toJson (c : PressureConfig) :
    ofJson? c.toJson = c.limits.reread?.map fun l => { c with limits := l } := by
  have hnames : names.Nodup := by decide
  rw [ofJson?, toJson, fields?_ofFields hnames rfl]
  simp only [Option.bind_eq_bind, Option.bind_some, uint64?_ofNat, bool?_bool,
    PressureLimits.reread?, HotFire.reread?, Option.map_bind, Function.comp_def, Option.pure_def,
    Option.map_some]

theorem toJson_wellFormed (c : PressureConfig) : c.toJson.WellFormed := by
  refine ofFields_wellFormed ?_
  simp [ofNat_wellFormed, ofFloat_wellFormed, WellFormed.bool]

end PressureConfig

namespace StandConfig

def withLimits (c : StandConfig) (l : PressureLimits) : StandConfig :=
  { c with pressure := { c.pressure with limits := l } }

theorem toJson_wellFormed (c : StandConfig) : c.toJson.WellFormed := by
  refine ofFields_wellFormed ?_
  simp [NetworkConfig.toJson_wellFormed, ScheduleConfig.toJson_wellFormed,
    PressureConfig.toJson_wellFormed, SamplingConfig.toJson_wellFormed,
    GitvcConfig.toJson_wellFormed, EngineKind.toJson, WellFormed.string]

theorem ofJson?_toJson (c : StandConfig) :
    ofJson? c.toJson = c.pressure.limits.reread?.map c.withLimits := by
  have hnames : names.Nodup := by decide
  rw [ofJson?, toJson, fields?_ofFields hnames rfl]
  simp only [Option.bind_eq_bind, Option.bind_some, NetworkConfig.ofJson?_toJson, EngineKind.ofJson?_toJson,
    ScheduleConfig.ofJson?_toJson, PressureConfig.ofJson?_toJson, SamplingConfig.ofJson?_toJson,
    GitvcConfig.ofJson?_toJson]
  cases c.pressure.limits.reread? <;> rfl

/-- A document gives back all of the configuration that it is of, with the five numbers
of the limits as they reread. -/
theorem ofDocument?_document (c : StandConfig) :
    ofDocument? c.document = c.pressure.limits.reread?.map c.withLimits := by
  rw [ofDocument?, document, c.toJson_wellFormed.ofText?_text]
  exact c.ofJson?_toJson

end StandConfig

/-- The double is the same after it has been written and read. -/
def Rereads (x : Float) : Prop := reread? x = some x

instance (x : Float) : Decidable (Rereads x) := inferInstanceAs (Decidable (_ = _))

theorem reread?_eq_none {x : Float} (hx : x.isFinite = false) : reread? x = none := by
  have hnone : JsonNumber.ofFloat? x = none := by
    rw [← Option.not_isSome_iff_eq_none, JsonNumber.ofFloat?_isSome, hx]
    exact Bool.false_ne_true
  rw [reread?, ofFloat, hnone]
  rfl

theorem Rereads.isFinite {x : Float} (h : Rereads x) : x.isFinite = true := by
  rw [← Bool.not_eq_false]
  intro hx
  rw [Rereads, reread?_eq_none hx] at h
  cases h

namespace PressureLimits

theorem reread?_eq_self_iff (l : PressureLimits) :
    l.reread? = some l ↔ ∀ x ∈ l.numbers, Rereads x := by
  simp only [numbers, List.forall_mem_cons, Rereads, reread?, Option.bind_eq_bind,
    Option.bind_eq_some_iff, Option.pure_def, Option.some.injEq]
  constructor
  · rintro ⟨a, ha, b, hb, c, hc, d, hd, e, he, rfl⟩
    exact ⟨ha, hb, hc, hd, he, by simp⟩
  · rintro ⟨ha, hb, hc, hd, he, -⟩
    exact ⟨_, ha, _, hb, _, hc, _, hd, _, he, rfl⟩

theorem reread?_eq_none_of_mem {l : PressureLimits} {x : Float} (hx : x ∈ l.numbers)
    (h : HotFire.reread? x = none) : l.reread? = none := by
  rw [Option.eq_none_iff_forall_ne_some]
  intro l' hl'
  simp only [reread?, Option.bind_eq_bind, Option.bind_eq_some_iff] at hl'
  obtain ⟨a, ha, b, hb, c, hc, d, hd, e, he, -⟩ := hl'
  simp only [numbers, List.mem_cons, List.not_mem_nil, or_false] at hx
  rcases hx with rfl | rfl | rfl | rfl | rfl <;> simp_all

end PressureLimits

namespace StandConfig

theorem withLimits_eq_self_iff {c : StandConfig} {l : PressureLimits} :
    c.withLimits l = c ↔ l = c.pressure.limits := by
  obtain ⟨network, engine, schedule, ⟨limits, arm, enabled⟩, sampling, gitvc⟩ := c
  simp [withLimits]

theorem ofDocument?_document_eq_self_iff (c : StandConfig) :
    ofDocument? c.document = some c ↔ ∀ x ∈ c.pressure.limits.numbers, Rereads x := by
  rw [ofDocument?_document, ← PressureLimits.reread?_eq_self_iff, Option.map_eq_some_iff]
  constructor
  · rintro ⟨l, hl, hc⟩
    rw [hl, withLimits_eq_self_iff.mp hc]
  · intro hl
    exact ⟨_, hl, withLimits_eq_self_iff.mpr rfl⟩

/-- What its document gives back of a configuration that was accepted. It is the same
configuration if each of its five numbers rereads. Of these only the two bounds may be
infinite, and then there is nothing to be had from the document. -/
theorem accepted_survives_document_iff {t : ConfigTree} {c : StandConfig}
    (h : ofTree t = .ok c) :
    (ofDocument? c.document = some c ↔ ∀ x ∈ c.pressure.limits.numbers, Rereads x) ∧
    ((∀ x ∈ c.pressure.limits.numbers, x.isFinite = true → Rereads x) →
      (ofDocument? c.document = some c ↔
        c.pressure.limits.max.isFinite = true ∧ c.pressure.limits.min.isFinite = true)) ∧
    (c.pressure.limits.max.isFinite = false ∨ c.pressure.limits.min.isFinite = false →
      ofDocument? c.document = none) ∧
    ∀ c', ofDocument? c.document = some c' →
      c'.profile = c.profile ∧ c'.timing = c.timing ∧ ∃ l, c' = c.withLimits l := by
  obtain ⟨-, hvalid⟩ := ofTree_eq_ok_iff.mp h
  obtain ⟨-, ⟨hslope, hintercept, hnominal⟩, -⟩ :=
    c.flaw?_eq_none_iff.mp (c.validate_eq_ok_iff.mp hvalid)
  have hsurvives := c.ofDocument?_document_eq_self_iff
  refine ⟨hsurvives, fun hfinite => ?_, fun hbound => ?_, fun c' hc' => ?_⟩
  · rw [hsurvives]
    refine ⟨fun hall => ⟨?_, ?_⟩, fun ⟨hmax, hmin⟩ x hx => hfinite x hx ?_⟩
    · exact (hall _ (by simp [PressureLimits.numbers])).isFinite
    · exact (hall _ (by simp [PressureLimits.numbers])).isFinite
    · simp only [PressureLimits.numbers, List.mem_cons, List.not_mem_nil, or_false] at hx
      rcases hx with rfl | rfl | rfl | rfl | rfl <;> assumption
  · have hnone : c.pressure.limits.reread? = none := by
      rcases hbound with hmax | hmin
      · exact PressureLimits.reread?_eq_none_of_mem (by simp [PressureLimits.numbers])
          (reread?_eq_none hmax)
      · exact PressureLimits.reread?_eq_none_of_mem (by simp [PressureLimits.numbers])
          (reread?_eq_none hmin)
    rw [ofDocument?_document, hnone, Option.map_none]
  · rw [ofDocument?_document, Option.map_eq_some_iff] at hc'
    obtain ⟨l, -, rfl⟩ := hc'
    exact ⟨rfl, rfl, l, rfl⟩

/-- A finite number need not reread: where seventeen digits are written, the reader rounds
them twice. -/
example : ¬ Rereads (-2 / 13) := by decide +kernel

theorem accepted_survives_document_of_luna :
    ofTree lunaTree = .ok lunaConfig ∧ ofDocument? lunaConfig.document = some lunaConfig := by
  obtain ⟨hsurvives, -⟩ := accepted_survives_document_iff ofTree_lunaTree
  exact ⟨ofTree_lunaTree, hsurvives.mpr (by decide +kernel)⟩

set_option maxRecDepth 20000 in
/-- The same stand with no upper bound of the pressure. Its document has `null` there. -/
theorem unbounded_lost_in_document :
    let t : ConfigTree := ⟨lunaTree.root ++ [("pressure", .table [("pressure_max", .text "inf"),
      ("pressure_min", .text "300"), ("slope", .text "-1"), ("yint", .text "1000")])]⟩
    let c := lunaConfig.withLimits ⟨-1, 1000, 300, 1 / 0, 700⟩
    ofTree t = .ok c ∧ ofDocument? c.document = none := by
  intro t c
  have hok : ofTree t = .ok c := rfl
  have hmem : 1 / 0 ∈ c.pressure.limits.numbers := List.mem_cons_self
  have hlimits : c.pressure.limits.reread? = none :=
    PressureLimits.reread?_eq_none_of_mem hmem (reread?_eq_none (by decide))
  exact ⟨hok, by rw [ofDocument?_document, hlimits, Option.map_none]⟩

end StandConfig

end HotFire
