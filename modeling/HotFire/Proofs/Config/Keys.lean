import HotFire.Proofs.Config.Readers

/-! The keys of a configuration: where each stands, what it has to hold, and which have
to be there. Everything that a tree is refused for while it is read is the fault of one
of them. -/

namespace HotFire

inductive KeyKind where
  | text
  | engine
  | whole (size : Nat)
  | number
  | truth
  | counts
  deriving DecidableEq, Repr

namespace KeyKind

/-- The typed value at a key is one that a key of this kind takes. -/
def Accepts (t : ConfigTree) (table key : String) : KeyKind → Prop
  | text => ∃ s, t.string table key = .ok s
  | engine => ∃ s kind, t.string table key = .ok s ∧ EngineKind.ofText? s = some kind
  | whole size => ∃ n : Nat, t.int table key = .ok n ∧ n < size
  | number => ∃ x, t.double table key = .ok x
  | truth => ∃ b, t.bool table key = .ok b
  | counts => ∃ ns : List Nat, t.vector table key = .ok (ns.map fun n : Nat => (n : Int)) ∧
      ∀ n ∈ ns, n < UInt32.size

variable {t t' : ConfigTree} {table key : String}

theorem Accepts.isPresent {kind : KeyKind} (h : kind.Accepts t table key) :
    t.isPresent table key = true := by
  cases kind with
  | text =>
    obtain ⟨s, hs⟩ := h
    exact Reader.string_lawful.isPresent hs
  | engine =>
    obtain ⟨s, -, hs, -⟩ := h
    exact Reader.string_lawful.isPresent hs
  | whole =>
    obtain ⟨n, hn, -⟩ := h
    exact Reader.int_lawful.isPresent hn
  | number =>
    obtain ⟨x, hx⟩ := h
    exact Reader.double_lawful.isPresent hx
  | truth =>
    obtain ⟨b, hb⟩ := h
    exact Reader.bool_lawful.isPresent hb
  | counts =>
    obtain ⟨ns, hns, -⟩ := h
    exact Reader.vector_lawful.isPresent hns

theorem accepts_congr (h : t'.value? table key = t.value? table key) (kind : KeyKind) :
    kind.Accepts t' table key ↔ kind.Accepts t table key := by
  cases kind <;>
    simp only [Accepts, Reader.string_lawful.congr h, Reader.int_lawful.congr h,
      Reader.double_lawful.congr h, Reader.bool_lawful.congr h, Reader.vector_lawful.congr h]

end KeyKind

namespace Reader

/-- A lawful reader that reads exactly what keys of a kind take. -/
structure Serves {α : Type} (read : Reader α) (kind : KeyKind) : Prop where
  lawful : read.Lawful
  accepts_iff : ∀ {t : ConfigTree} {table key : String},
    kind.Accepts t table key ↔ ∃ a, read t table key = .ok a

theorem string_serves : Serves ConfigTree.string .text := ⟨string_lawful, Iff.rfl⟩

theorem double_serves : Serves ConfigTree.double .number := ⟨double_lawful, Iff.rfl⟩

theorem bool_serves : Serves ConfigTree.bool .truth := ⟨bool_lawful, Iff.rfl⟩

theorem narrowed_serves {α : Type} {narrow : Int → Option α} {value : α → Nat} {size : Nat}
    (h : Exact narrow value size) : Serves (narrowed narrow) (.whole size) where
  lawful := narrowed_lawful narrow
  accepts_iff := by
    intro t table key
    constructor
    · rintro ⟨n, hn, hlt⟩
      obtain ⟨a, rfl⟩ := h.exists_value n hlt
      exact ⟨a, (narrowed_eq_ok_iff h).mpr hn⟩
    · rintro ⟨a, ha⟩
      exact ⟨value a, (narrowed_eq_ok_iff h).mp ha, h.lt a⟩

theorem counts_serves : Serves counts .counts where
  lawful := counts_lawful
  accepts_iff := by
    intro t table key
    constructor
    · rintro ⟨ns, hns, hlt⟩
      refine ⟨ns.map UInt32.ofNat, counts_eq_ok_iff.mpr ?_⟩
      rw [hns, List.map_map]
      congr 1
      refine List.map_congr_left fun n hn => ?_
      exact congrArg Int.ofNat (UInt32.toNat_ofNat_of_lt (hlt n hn)).symm
    · rintro ⟨as, has⟩
      refine ⟨as.map UInt32.toNat, ?_, ?_⟩
      · rw [counts_eq_ok_iff.mp has, List.map_map]
        rfl
      · intro n hn
        obtain ⟨a, -, rfl⟩ := List.mem_map.mp hn
        exact a.toNat_lt

theorem engineKind_serves : Serves engineKind .engine where
  lawful := engineKind_lawful
  accepts_iff := by
    intro t table key
    constructor
    · rintro ⟨s, kind, h⟩
      exact ⟨kind, engineKind_eq_ok_iff.mpr ⟨s, h⟩⟩
    · rintro ⟨kind, h⟩
      obtain ⟨s, h⟩ := engineKind_eq_ok_iff.mp h
      exact ⟨s, kind, h⟩

end Reader

inductive ConfigKey where
  | address
  | port
  | listenAddress
  | commandPort
  | engine
  | preignite
  | hotflow
  | poll
  | pressureMax
  | pressureMin
  | slope
  | intercept
  | nominal
  | shutoffArm
  | shutoffEnabled
  | loadCellHz
  | pressureHz
  | thermocoupleHz
  | useGitvc
  | gitvcTimes
  | gitvcWait
  | gitvcBetween
  deriving DecidableEq, Repr

namespace ConfigKey

def table : ConfigKey → String
  | address | port | listenAddress | commandPort => "Network"
  | engine => "Main"
  | preignite | hotflow | poll => "Worker"
  | pressureMax | pressureMin | slope | intercept | nominal | shutoffArm | shutoffEnabled =>
    "Pressure"
  | loadCellHz | pressureHz | thermocoupleHz => "Sampling"
  | useGitvc | gitvcTimes | gitvcWait | gitvcBetween => "Luna"

def name : ConfigKey → String
  | address => "address"
  | port => "port"
  | listenAddress => "listen_address"
  | commandPort => "command_port"
  | engine => "engine_type"
  | preignite => "preignite_ms"
  | hotflow => "hotflow_ms"
  | poll => "poll_ms"
  | pressureMax => "pressure_max"
  | pressureMin => "pressure_min"
  | slope => "slope"
  | intercept => "yint"
  | nominal => "nominal"
  | shutoffArm => "pressureshutoff_ms"
  | shutoffEnabled => "shutoff_enabled"
  | loadCellHz => "lc_hz"
  | pressureHz => "pt_hz"
  | thermocoupleHz => "tc_hz"
  | useGitvc => "use_gitvc"
  | gitvcTimes => "gitvc_times_ms"
  | gitvcWait => "gitvc_wait_ms"
  | gitvcBetween => "time_between_gitvc_ms"

def kind : ConfigKey → KeyKind
  | address | listenAddress => .text
  | engine => .engine
  | port | commandPort => .whole UInt16.size
  | preignite | hotflow | poll | shutoffArm => .whole UInt64.size
  | loadCellHz | pressureHz | thermocoupleHz | gitvcWait | gitvcBetween => .whole UInt32.size
  | pressureMax | pressureMin | slope | intercept | nominal => .number
  | shutoffEnabled | useGitvc => .truth
  | gitvcTimes => .counts

def required : List ConfigKey := [address, port, engine, preignite, hotflow]

/-- The four numbers of the shutoff. Reading them stops at the first that is missing. -/
def shutoff : List ConfigKey := [pressureMax, pressureMin, slope, intercept]

/-- The numbers of the shutoff that are read before this one. -/
def earlier : ConfigKey → List ConfigKey
  | pressureMin => [pressureMax]
  | slope => [pressureMax, pressureMin]
  | intercept => [pressureMax, pressureMin, slope]
  | _ => []

def Present (t : ConfigTree) (k : ConfigKey) : Prop := t.isPresent k.table k.name = true

def Accepted (t : ConfigTree) (k : ConfigKey) : Prop := k.kind.Accepts t k.table k.name

/-- Two trees hold the same at a key. -/
def Same (t' t : ConfigTree) (k : ConfigKey) : Prop :=
  t'.value? k.table k.name = t.value? k.table k.name

/-- A number of the shutoff that comes after a missing one, and so is not read. -/
def Shadowed (t : ConfigTree) (k : ConfigKey) : Prop := ∃ k' ∈ k.earlier, ¬ k'.Present t

/-- Reading the numbers of the shutoff stops here, for want of this one. -/
def FirstMissing (t : ConfigTree) (k : ConfigKey) : Prop :=
  k ∈ shutoff ∧ ¬ k.Present t ∧ ∀ k' ∈ k.earlier, k'.Accepted t

/-- What a key can have a tree refused for. -/
inductive Faults (t : ConfigTree) (k : ConfigKey) : ConfigError → Prop where
  | missing : k ∈ required → ¬ k.Present t → Faults t k (.keyNotFound k.table k.name)
  | refused (text : String) : (∀ k' ∈ k.earlier, k'.Accepted t) → k.Present t →
      ¬ k.Accepted t → Faults t k (.invalidValue k.table k.name text)

variable {t t' : ConfigTree} {k : ConfigKey} {e : ConfigError} {α : Type} {read : Reader α}

theorem Accepted.present (h : k.Accepted t) : k.Present t := h.isPresent

theorem Same.present_iff (h : k.Same t' t) : k.Present t' ↔ k.Present t := by
  have hvalue : t'.value? k.table k.name = t.value? k.table k.name := h
  rw [Present, Present, ConfigTree.isPresent, ConfigTree.isPresent, hvalue]

theorem Same.accepted_iff (h : k.Same t' t) : k.Accepted t' ↔ k.Accepted t :=
  k.kind.accepts_congr h

theorem earlier_ne {k' : ConfigKey} (h : k' ∈ k.earlier) : k' ≠ k := by
  rintro rfl
  revert h
  cases k' <;> decide

theorem earlier_eq_nil (h : k ∉ shutoff) : k.earlier = [] := by
  revert h
  cases k <;> decide

theorem earlier_accepted (h : k ∉ shutoff) : ∀ k' ∈ k.earlier, k'.Accepted t := by
  simp [earlier_eq_nil h]

theorem not_shadowed_of_accepted (h : ∀ k' ∈ k.earlier, k'.Accepted t) : ¬ k.Shadowed t := by
  rintro ⟨k', hk, habsent⟩
  exact habsent (h k' hk).present

theorem not_shadowed_of_not_mem (h : k ∉ shutoff) : ¬ k.Shadowed t :=
  not_shadowed_of_accepted (earlier_accepted h)

/-- Whether a key is read is a matter of the other keys. -/
theorem shadowed_congr (h : ∀ k', k' ≠ k → k'.Same t' t) : k.Shadowed t' ↔ k.Shadowed t := by
  refine exists_congr fun k' => and_congr_right fun hk => not_congr ?_
  exact (h k' (earlier_ne hk)).present_iff

theorem read_of_absent (hr : read.Lawful) (hp : ¬ k.Present t) :
    read t k.table k.name = .error (.keyNotFound k.table k.name) :=
  hr.missing (Bool.eq_false_iff.mpr hp)

theorem faults_of_present (hr : read.Serves k.kind) (hearlier : ∀ k' ∈ k.earlier, k'.Accepted t)
    (hp : k.Present t) (he : read t k.table k.name = .error e) : k.Faults t e := by
  obtain ⟨text, rfl⟩ := hr.lawful.refused hp he
  refine .refused text hearlier hp fun ha => ?_
  obtain ⟨a, ha⟩ := hr.accepts_iff.mp ha
  rw [ha] at he
  cases he

theorem faults_of_required (hk : k ∈ required) (hr : read.Serves k.kind)
    (he : read t k.table k.name = .error e) : k.Faults t e := by
  by_cases hp : k.Present t
  · have hdisjoint : ∀ k ∈ required, k ∉ shutoff := by decide
    exact faults_of_present hr (earlier_accepted (hdisjoint k hk)) hp he
  · rw [read_of_absent hr.lawful hp] at he
    cases he
    exact .missing hk hp

theorem faults_of_optional {absent : α} (hk : k ∉ shutoff) (hr : read.Serves k.kind)
    (he : Reader.optional absent read t k.table k.name = .error e) : k.Faults t e := by
  rw [Reader.optional] at he
  split at he
  next hp => exact faults_of_present hr (earlier_accepted hk) hp he
  next => cases he

/-- A number of the shutoff that cannot be read is missing, and all four give way to the
standard ones, or it is at fault. -/
theorem stops_at_shutoff (hk : k ∈ shutoff) (hr : read.Serves k.kind)
    (hearlier : ∀ k' ∈ k.earlier, k'.Accepted t) (he : read t k.table k.name = .error e) :
    k.FirstMissing t ∧ e = .keyNotFound k.table k.name ∨
      k.Faults t e ∧ ∃ text, e = .invalidValue k.table k.name text := by
  by_cases hp : k.Present t
  · exact .inr ⟨faults_of_present hr hearlier hp he, hr.lawful.refused hp he⟩
  · rw [read_of_absent hr.lawful hp] at he
    exact .inl ⟨⟨hk, hp, hearlier⟩, (Except.error.inj he).symm⟩

/-- The numbers of the shutoff that are there and are read come before the missing one. -/
theorem FirstMissing.accepted {k' : ConfigKey} (h : k'.FirstMissing t) (hk : k ∈ shutoff)
    (hp : k.Present t) (hs : ¬ k.Shadowed t) : k.Accepted t := by
  obtain ⟨hk', habsent, hearlier⟩ := h
  have horder : ∀ a ∈ shutoff, ∀ b ∈ shutoff, a ∈ b.earlier ∨ a = b ∨ b ∈ a.earlier := by decide
  rcases horder k hk k' hk' with hbefore | rfl | hafter
  · exact hearlier k hbefore
  · exact (habsent hp).elim
  · exact (hs ⟨k', hafter, habsent⟩).elim

end ConfigKey

end HotFire
