import HotFire.Config.Reading

/-! What the readers of a configuration promise. A reader sees nothing of the tree but the
value at its key; without one it tells which key it misses, and a value that it refuses it
blames on that key. A narrowed number is the number itself. -/

namespace HotFire

theorem bind_eq_ok_iff {ε α β : Type} {x : Except ε α} {f : α → Except ε β} {b : β} :
    x >>= f = .ok b ↔ ∃ a, x = .ok a ∧ f a = .ok b := by
  cases x <;> simp [bind, Except.bind]

theorem bind_eq_error_iff {ε α β : Type} {x : Except ε α} {f : α → Except ε β} {e : ε} :
    x >>= f = .error e ↔ x = .error e ∨ ∃ a, x = .ok a ∧ f a = .error e := by
  cases x <;> simp [bind, Except.bind]

/-- A list read item by item, where each item is read from one value only. -/
theorem mapM_eq_ok_iff {ε α β : Type} {f : α → Except ε β} {g : β → α}
    (h : ∀ x y, f x = .ok y ↔ x = g y) {xs : List α} {ys : List β} :
    xs.mapM f = .ok ys ↔ xs = ys.map g := by
  induction xs generalizing ys with
  | nil => cases ys <;> simp [pure, Except.pure]
  | cons x xs ih =>
    rw [List.mapM_cons, bind_eq_ok_iff]
    constructor
    · rintro ⟨y, hy, htail⟩
      obtain ⟨rest, hrest, hcons⟩ := bind_eq_ok_iff.mp htail
      cases hcons
      rw [(h x y).mp hy, ih.mp hrest]
      rfl
    · intro hcons
      cases ys with
      | nil => cases hcons
      | cons y ys =>
        obtain ⟨rfl, rfl⟩ := List.cons.inj hcons
        exact ⟨y, (h _ y).mpr rfl, bind_eq_ok_iff.mpr ⟨ys, ih.mpr rfl, rfl⟩⟩

theorem exists_error_of_mapM {ε α β : Type} {f : α → Except ε β} {xs : List α} {e : ε}
    (h : xs.mapM f = .error e) : ∃ x ∈ xs, f x = .error e := by
  induction xs with
  | nil => cases h
  | cons x xs ih =>
    rw [List.mapM_cons, bind_eq_error_iff] at h
    rcases h with h | ⟨a, -, h⟩
    · exact ⟨x, List.mem_cons_self, h⟩
    · rcases bind_eq_error_iff.mp h with h | ⟨as, -, h⟩
      · obtain ⟨y, hy, he⟩ := ih h
        exact ⟨y, List.mem_cons_of_mem x hy, he⟩
      · cases h

namespace Reader

structure Lawful {α : Type} (read : Reader α) : Prop where
  missing : ∀ {t : ConfigTree} {table key : String}, t.isPresent table key = false →
    read t table key = .error (.keyNotFound table key)
  refused : ∀ {t : ConfigTree} {table key : String} {e : ConfigError},
    t.isPresent table key = true → read t table key = .error e →
    ∃ text, e = .invalidValue table key text
  congr : ∀ {t t' : ConfigTree} {table key : String},
    t'.value? table key = t.value? table key → read t' table key = read t table key

theorem typed_lawful {α : Type} (parse : String → Option α) :
    Lawful fun t table key => t.typed table key parse where
  missing := by
    intro t table key h
    have hnone : t.value? table key = none := Option.not_isSome_iff_eq_none.mp (by
      rw [← ConfigTree.isPresent, h]; exact Bool.false_ne_true)
    simp only [ConfigTree.typed, hnone]
  refused := by
    intro t table key e h he
    obtain ⟨v, hv⟩ := Option.isSome_iff_exists.mp h
    simp only [ConfigTree.typed, hv] at he
    split at he
    · cases he
    · exact ⟨v.display, (Except.error.inj he).symm⟩
  congr := by
    intro t t' table key h
    simp only [ConfigTree.typed, h]

/-- What a reader hands on to a check that blames its key stays lawful. -/
theorem Lawful.bind {α β : Type} {read : Reader α} (h : read.Lawful)
    {check : String → String → α → Except ConfigError β}
    (hcheck : ∀ {table key : String} {a : α} {e : ConfigError}, check table key a = .error e →
      ∃ text, e = .invalidValue table key text) :
    Lawful fun t table key => read t table key >>= check table key where
  missing := by
    intro t table key hm
    rw [h.missing hm]
    rfl
  refused := by
    intro t table key e hp he
    rcases bind_eq_error_iff.mp he with he | ⟨a, -, he⟩
    · exact h.refused hp he
    · exact hcheck he
  congr := by
    intro t t' table key hv
    rw [h.congr hv]

theorem Lawful.isPresent {α : Type} {read : Reader α} (h : read.Lawful) {t : ConfigTree}
    {table key : String} {a : α} (ha : read t table key = .ok a) :
    t.isPresent table key = true := by
  cases hp : t.isPresent table key with
  | true => rfl
  | false =>
    rw [h.missing hp] at ha
    cases ha

theorem Lawful.optional_congr {α : Type} {read : Reader α} (h : read.Lawful) {absent : α}
    {t t' : ConfigTree} {table key : String} (hv : t'.value? table key = t.value? table key) :
    optional absent read t' table key = optional absent read t table key := by
  rw [optional, optional, ConfigTree.isPresent, ConfigTree.isPresent, hv, h.congr hv]

theorem string_lawful : Lawful ConfigTree.string := typed_lawful some

theorem int_lawful : Lawful ConfigTree.int := typed_lawful _

theorem double_lawful : Lawful ConfigTree.double := typed_lawful _

theorem bool_lawful : Lawful ConfigTree.bool := typed_lawful _

theorem fit_refused {α : Type} {narrow : Int → Option α} {table key : String} {n : Int}
    {e : ConfigError} (h : fit narrow table key n = .error e) :
    ∃ text, e = .invalidValue table key text := by
  rw [fit] at h
  split at h
  · cases h
  · exact ⟨_, (Except.error.inj h).symm⟩

theorem narrowed_lawful {α : Type} (narrow : Int → Option α) : Lawful (narrowed narrow) :=
  int_lawful.bind fit_refused

theorem vector_lawful : Lawful ConfigTree.vector :=
  string_lawful.bind fun {table key s e} he => by
    obtain ⟨part, -, hpart⟩ := exists_error_of_mapM he
    cases hn : word? part with
    | some n => simp [hn] at hpart
    | none =>
      simp only [hn] at hpart
      exact ⟨_, (Except.error.inj hpart).symm⟩

theorem counts_lawful : Lawful counts :=
  vector_lawful.bind fun {table key ns e} he => by
    obtain ⟨n, -, hn⟩ := exists_error_of_mapM he
    exact fit_refused hn

theorem engineKind_lawful : Lawful engineKind :=
  string_lawful.bind fun {table key s e} he => by
    cases hk : EngineKind.ofText? s with
    | some kind => simp [hk] at he
    | none =>
      simp only [hk] at he
      exact ⟨_, (Except.error.inj he).symm⟩

theorem engineKind_eq_ok_iff {t : ConfigTree} {table key : String} {kind : EngineKind} :
    engineKind t table key = .ok kind ↔
      ∃ s, t.string table key = .ok s ∧ EngineKind.ofText? s = some kind := by
  rw [engineKind, bind_eq_ok_iff]
  refine exists_congr fun s => and_congr_right fun _ => ?_
  cases EngineKind.ofText? s <;> simp

/-- A narrowing that takes the numbers below `size`, and takes them as they are. -/
structure Exact {α : Type} (narrow : Int → Option α) (value : α → Nat) (size : Nat) : Prop where
  eq_some_iff : ∀ n a, narrow n = some a ↔ n = value a
  lt : ∀ a, value a < size
  exists_value : ∀ m, m < size → ∃ a, value a = m

theorem exact_of_range {α : Type} {size : Nat} {ofNat : Nat → α} {toNat : α → Nat}
    (hlt : ∀ a, toNat a < size) (hto : ∀ m, m < size → toNat (ofNat m) = m)
    (hof : ∀ a, ofNat (toNat a) = a) :
    Exact (fun n => if 0 ≤ n && n < size then some (ofNat n.toNat) else none) toNat size where
  eq_some_iff := by
    intro n a
    by_cases hn : 0 ≤ n ∧ n < size
    · have hm := hto n.toNat (by omega)
      simp only [hn, decide_true, Bool.and_self, if_true, Option.some.injEq]
      constructor
      · rintro rfl
        omega
      · rintro rfl
        exact hof a
    · have ha := hlt a
      simp only [Bool.and_eq_true, decide_eq_true_eq, hn, if_false, reduceCtorEq, false_iff]
      omega
  lt := hlt
  exists_value := fun m hm => ⟨ofNat m, hto m hm⟩

theorem uint16?_exact : Exact uint16? UInt16.toNat UInt16.size :=
  exact_of_range UInt16.toNat_lt (fun _ => UInt16.toNat_ofNat_of_lt) fun _ => UInt16.ofNat_toNat

theorem uint32?_exact : Exact uint32? UInt32.toNat UInt32.size :=
  exact_of_range UInt32.toNat_lt (fun _ => UInt32.toNat_ofNat_of_lt) fun _ => UInt32.ofNat_toNat

theorem uint64?_exact : Exact uint64? UInt64.toNat UInt64.size :=
  exact_of_range UInt64.toNat_lt (fun _ => UInt64.toNat_ofNat_of_lt) fun _ => UInt64.ofNat_toNat

theorem Exact.fit_eq_ok_iff {α : Type} {narrow : Int → Option α} {value : α → Nat} {size : Nat}
    (h : Exact narrow value size) {table key : String} (n : Int) (a : α) :
    fit narrow table key n = .ok a ↔ n = value a := by
  rw [← h.eq_some_iff, fit]
  cases narrow n <;> simp

theorem narrowed_eq_ok_iff {α : Type} {narrow : Int → Option α} {value : α → Nat}
    {size : Nat} (h : Exact narrow value size) {t : ConfigTree} {table key : String} {a : α} :
    narrowed narrow t table key = .ok a ↔ t.int table key = .ok (value a) := by
  simp only [narrowed, bind_eq_ok_iff, h.fit_eq_ok_iff]
  constructor
  · rintro ⟨n, hn, rfl⟩
    exact hn
  · intro hn
    exact ⟨value a, hn, rfl⟩

theorem counts_eq_ok_iff {t : ConfigTree} {table key : String} {as : List UInt32} :
    counts t table key = .ok as ↔
      t.vector table key = .ok (as.map fun a => (a.toNat : Int)) := by
  have hitem : ∀ n a, fit uint32? table key n = .ok a ↔ n = a.toNat :=
    uint32?_exact.fit_eq_ok_iff
  rw [counts, bind_eq_ok_iff]
  constructor
  · rintro ⟨ns, hns, has⟩
    rw [hns, (mapM_eq_ok_iff hitem).mp has]
  · intro h
    exact ⟨_, h, (mapM_eq_ok_iff hitem).mpr rfl⟩

end Reader

namespace ConfigTree

/-- What a key that may be missing gives: what is read there, or a default. -/
def Gives {α : Type} (t : ConfigTree) (read : Reader α) (table key : String) (absent a : α) :
    Prop :=
  if t.isPresent table key then read t table key = .ok a else a = absent

theorem Gives.read_eq {α : Type} {t : ConfigTree} {read : Reader α} {table key : String}
    {absent a : α} (h : t.Gives read table key absent a) (hp : t.isPresent table key = true) :
    read t table key = .ok a := by
  rwa [Gives, if_pos hp] at h

end ConfigTree

namespace Reader

variable {α : Type} {t : ConfigTree} {table key : String}

theorem optional_eq_ok_iff {read : Reader α} {absent a : α} :
    optional absent read t table key = .ok a ↔ t.Gives read table key absent a := by
  rw [optional, ConfigTree.Gives]
  split
  · exact Iff.rfl
  · exact Except.ok.injEq absent a ▸ eq_comm

theorem optional_narrowed_eq_ok_iff {narrow : Int → Option α} {value : α → Nat} {size : Nat}
    (h : Exact narrow value size) {absent a : α} :
    optional absent (narrowed narrow) t table key = .ok a ↔
      t.Gives ConfigTree.int table key (value absent) (value a) := by
  rw [optional_eq_ok_iff, ConfigTree.Gives, ConfigTree.Gives, narrowed_eq_ok_iff h]
  split
  · exact Iff.rfl
  · refine ⟨fun he => congrArg (fun b => (value b : Int)) he, fun he => ?_⟩
    have ha := (h.eq_some_iff _ a).mpr rfl
    exact Option.some.inj (ha.symm.trans ((h.eq_some_iff _ absent).mpr he))

theorem optional_counts_eq_ok_iff {absent as : List UInt32} :
    optional absent counts t table key = .ok as ↔
      t.Gives ConfigTree.vector table key (absent.map fun a => (a.toNat : Int))
        (as.map fun a => (a.toNat : Int)) := by
  rw [optional_eq_ok_iff, ConfigTree.Gives, ConfigTree.Gives, counts_eq_ok_iff]
  split
  · exact Iff.rfl
  · refine (List.map_inj_right fun a b h => ?_).symm
    exact UInt32.toNat_inj.mp (Int.ofNat.inj h)

end Reader

end HotFire
