import HotFire.Proofs.Sampling.Guard
import HotFire.Proofs.Telemetry.Frame
import Mathlib.Data.List.Basic

/-! The samples of a slot on their way to the link. Cut into frames of sixteen and
followed by what still waits, they are the samples that were taken, in their order,
whatever the link does with the frames. -/

namespace HotFire

namespace SampleEvent

def bytes? : SampleEvent → Option (List UInt8)
  | .frame _ bytes _ => some bytes
  | .read _ _ => none

def sender? : SampleEvent → Option Sensor
  | .frame sensor _ _ => some sensor
  | .read _ _ => none

def answer? : SampleEvent → Option (Option LinkFault)
  | .frame _ _ link => some link
  | .read _ _ => none

end SampleEvent

namespace SamplingStats

/-- The counters once the link has answered to some frames. -/
def tally (s : SamplingStats) (answers : List (Option LinkFault)) : SamplingStats :=
  { s with
    framesSent := s.framesSent + UInt64.ofNat (answers.countP Option.isNone)
    framesDropped := s.framesDropped + UInt64.ofNat (answers.countP Option.isSome) }

theorem tally_append (s : SamplingStats) (answers answers' : List (Option LinkFault)) :
    s.tally (answers ++ answers') = (s.tally answers).tally answers' := by
  simp only [tally, List.countP_append, UInt64.ofNat_add, UInt64.add_assoc]

end SamplingStats

namespace SampleSlot

/-- What a slot does in a pass, in order. -/
def events (slot : SampleSlot) (c : Conversion) : List SampleEvent :=
  .read slot.spec.sensor c.raw ::
    (slot.keep c).2.toList.map (.frame slot.spec.sensor · c.link)

theorem keep_of_room {slot : SampleSlot} (h : slot.buffer.length < Frame.capacity)
    (c : Conversion) :
    (slot.keep c).2 = none ∧ (slot.keep c).1.buffer.toList = slot.buffer.toList ++ [item c] := by
  obtain ⟨hok, hlist⟩ := Ring.push_of_room (Nat.succ_lt_succ h) (item c)
  have hpush : slot.buffer.push (item c) = ((slot.buffer.push (item c)).1, .ok) :=
    Prod.ext rfl hok
  rw [keep, hpush]
  exact ⟨rfl, hlist⟩

theorem keep_of_full {slot : SampleSlot} (h : slot.buffer.length = Frame.capacity)
    (c : Conversion) :
    (slot.keep c).2 = some (Frame.bytes slot.spec.sensor.id slot.buffer.toList) ∧
      (slot.keep c).1.buffer.toList = [item c] := by
  obtain ⟨hframe, hempty⟩ := Framer.standard_frame slot.spec.sensor.id slot.buffer
  have hlength : (Frame.bytes slot.spec.sensor.id slot.buffer.toList).length = Frame.length := by
    rw [Frame.length_bytes, Ring.length_toList, h]
    rfl
  rw [hlength, Nat.sub_self, List.replicate_zero, List.append_nil] at hframe
  have hroom : (Framer.standard.frame slot.spec.sensor.id slot.buffer).2.length + 1 <
      Frame.slots := by
    rw [(Ring.toList_eq_nil_iff _).mp hempty]
    decide
  have hlist := (Ring.push_of_room hroom (item c)).2
  rw [hempty, List.nil_append] at hlist
  have hpush : slot.buffer.push (item c) = (slot.buffer, .full) :=
    Ring.push_of_full (by rw [h]; rfl) (item c)
  simp only [keep, hpush, hframe, true_and]
  exact hlist

def frame (slot : SampleSlot) : List UInt8 :=
  Frame.bytes slot.spec.sensor.id slot.buffer.toList

theorem length_le_capacity (slot : SampleSlot) : slot.buffer.length ≤ Frame.capacity :=
  Nat.le_of_lt_succ slot.buffer.length_lt

theorem events_of_room {slot : SampleSlot} (h : slot.buffer.length ≠ Frame.capacity)
    (c : Conversion) : slot.events c = [.read slot.spec.sensor c.raw] := by
  have hroom := Nat.lt_of_le_of_ne slot.length_le_capacity h
  rw [events, (keep_of_room hroom c).1]
  rfl

theorem events_of_full {slot : SampleSlot} (h : slot.buffer.length = Frame.capacity)
    (c : Conversion) :
    slot.events c =
      [.read slot.spec.sensor c.raw, .frame slot.spec.sensor slot.frame c.link] := by
  rw [events, (keep_of_full h c).1]
  rfl

/-- The samples of a slot so far: whole frames of them that have gone out, and those
that wait. -/
structure Streams (slot : SampleSlot) (batches : List (List Item)) (items : List Item) :
    Prop where
  joined : batches.flatten ++ slot.buffer.toList = items
  whole : ∀ batch ∈ batches, batch.length = Frame.capacity
  waiting : items ≠ [] → slot.buffer.length ≠ 0

theorem Streams.length_eq {slot : SampleSlot} {batches : List (List Item)} {items : List Item}
    (h : slot.Streams batches items) :
    Frame.capacity * batches.length + slot.buffer.length = items.length := by
  have hwhole : batches.flatten.length = batches.length * Frame.capacity := by
    rw [List.length_flatten, List.map_congr_left h.whole, List.map_const',
      List.sum_replicate_nat]
  rw [← h.joined, List.length_append, hwhole, Ring.length_toList, Nat.mul_comm]

theorem Streams.full_iff {slot : SampleSlot} {batches : List (List Item)} {items : List Item}
    (h : slot.Streams batches items) :
    slot.buffer.length = Frame.capacity ↔
      items.length ≠ 0 ∧ items.length % Frame.capacity = 0 := by
  have hlen := h.length_eq
  have hmax := slot.length_le_capacity
  have hwait : items.length ≠ 0 → slot.buffer.length ≠ 0 := fun hne =>
    h.waiting (List.ne_nil_of_length_pos (Nat.pos_of_ne_zero hne))
  -- So how many samples there were decides whether the buffer is full.
  simp only [Frame.capacity] at hlen hmax ⊢
  omega

theorem Streams.room {slot : SampleSlot} {batches : List (List Item)} {items : List Item}
    (h : slot.Streams batches items) (hroom : slot.buffer.length < Frame.capacity)
    (c : Conversion) : (slot.keep c).1.Streams batches (items ++ [item c]) := by
  obtain ⟨-, hlist⟩ := keep_of_room hroom c
  refine ⟨by rw [hlist, ← List.append_assoc, h.joined], h.whole, fun _ => ?_⟩
  rw [← Ring.length_toList, hlist, List.length_append]
  simp

theorem Streams.full {slot : SampleSlot} {batches : List (List Item)} {items : List Item}
    (h : slot.Streams batches items) (hfull : slot.buffer.length = Frame.capacity)
    (c : Conversion) :
    (slot.keep c).1.Streams (batches ++ [slot.buffer.toList]) (items ++ [item c]) := by
  obtain ⟨-, hlist⟩ := keep_of_full hfull c
  refine ⟨?_, ?_, fun _ => ?_⟩
  · rw [hlist, List.flatten_append, List.flatten_singleton, h.joined]
  · intro batch hb
    rcases List.mem_append.mp hb with hb | hb
    · exact h.whole batch hb
    · rw [List.mem_singleton.mp hb, Ring.length_toList, hfull]
  · rw [← Ring.length_toList, hlist]
    simp

end SampleSlot

namespace Pass

structure Accounts (p p' : Pass) (es : List SampleEvent) : Prop where
  events : p'.events = p.events ++ es
  stats : p'.stats = p.stats.tally (es.filterMap SampleEvent.answer?)

theorem sample_accounts (p : Pass) (slot : SampleSlot) (c : Conversion) :
    p.Accounts (p.sample slot c) (slot.events c) := by
  have hwatch : ∀ q : Pass, (q.watch slot.spec.sensor c.raw).events = q.events ∧
      (q.watch slot.spec.sensor c.raw).stats = q.stats := by
    intro q
    cases hg : q.guard <;> simp [watch, hg]
  cases hk : slot.keep c with
  | mk kept frame =>
    cases frame with
    | none =>
      constructor <;> simp [sample, SampleSlot.events, hk, hwatch, SamplingStats.tally,
        SampleEvent.answer?, List.filterMap_cons]
    | some bytes =>
      cases hl : c.link <;> constructor <;>
        simp [sample, deliver, SampleSlot.events, hk, hl, hwatch, SamplingStats.tally,
          SampleEvent.answer?, List.filterMap_cons]

theorem foldl_sample_accounts (xs : List (SampleSlot × Conversion)) (p : Pass) :
    p.Accounts (xs.foldl (fun p x => p.sample x.1 x.2) p)
      (xs.flatMap fun x => x.1.events x.2) := by
  induction xs generalizing p with
  | nil => constructor <;> simp [SamplingStats.tally]
  | cons x xs ih =>
    have hx := p.sample_accounts x.1 x.2
    have hxs := ih (p.sample x.1 x.2)
    constructor
    · rw [List.foldl_cons, hxs.events, hx.events, List.flatMap_cons, List.append_assoc]
    · rw [List.foldl_cons, hxs.stats, hx.stats, List.flatMap_cons, List.filterMap_append,
        SamplingStats.tally_append]

end Pass

theorem SamplingLoop.pass_accounts (l : SamplingLoop) (cs : List Conversion) (f : SafetyFlags) :
    (l.pass cs f).events = ((l.slots.zip cs).flatMap fun x => x.1.events x.2) ∧
      (l.pass cs f).loop.stats =
        { l.stats.tally ((l.pass cs f).events.filterMap SampleEvent.answer?) with
          cycles := l.stats.cycles + 1 } := by
  have h := Pass.foldl_sample_accounts (l.slots.zip cs)
    { guard := l.guard, flags := f, stats := l.stats }
  have hevents : (l.pass cs f).events = (l.slots.zip cs).flatMap fun x => x.1.events x.2 :=
    h.events
  rw [hevents]
  refine ⟨rfl, ?_⟩
  rw [pass, h.stats]
  rfl

/-- A group, and what its loop meets: the conversion of each slot at each pass, and
the flags. -/
structure Feed where
  group : SensorGroup
  shutoffEnabled : Bool
  conversion (pass slot : Nat) : Conversion
  flags (pass : Nat) : SafetyFlags

namespace Feed

def width (f : Feed) : Nat := f.group.sensors.length

def round (f : Feed) (k : Nat) : List Conversion := (List.range f.width).map (f.conversion k)

/-- The loop as pass `k` finds it. -/
def before (f : Feed) : Nat → SamplingLoop
  | 0 => SamplingLoop.ofGroup f.group f.shutoffEnabled
  | k + 1 => ((f.before k).pass (f.round k) (f.flags k)).loop

def pass (f : Feed) (k : Nat) : Sampled := (f.before k).pass (f.round k) (f.flags k)

/-- What slot `i` has been given in the first `n` passes: each reading, and the time
after it as far as the count of nanoseconds goes. -/
def sampled (f : Feed) (i n : Nat) : List Item :=
  (List.range n).map fun k =>
    ⟨(f.conversion k i).raw, UInt64.ofNat (min (f.conversion k i).time (UInt64.size - 1))⟩

/-- The frames of slot `i` that the first `n` passes handed to the link, sent or not.
A pass hands over none, or one for each slot in turn. -/
def handed (f : Feed) (i n : Nat) : List (List UInt8) :=
  (List.range n).filterMap fun k => (f.pass k).frames[i]?

variable (f : Feed)

theorem before_succ (k : Nat) : f.before (k + 1) = (f.pass k).loop := rfl

theorem length_round (k : Nat) : (f.round k).length = f.width := by simp [round]

theorem before_specs (k : Nat) : (f.before k).slots.map (·.spec) = f.group.sensors := by
  induction k with
  | zero => simp [before, SamplingLoop.ofGroup, SampleSlot.ofSpec, Function.comp_def]
  | succ k ih => rw [before_succ, pass, SamplingLoop.pass_specs, ih]

theorem length_slots (k : Nat) : (f.before k).slots.length = f.width := by
  rw [width, ← f.before_specs k, List.length_map]

theorem sampled_eq (i n : Nat) :
    f.sampled i n = (List.range n).map fun k => SampleSlot.item (f.conversion k i) := rfl

theorem sampled_succ (i k : Nat) :
    f.sampled i (k + 1) = f.sampled i k ++ [SampleSlot.item (f.conversion k i)] := by
  simp [sampled_eq, List.range_succ]

theorem length_sampled (i n : Nat) : (f.sampled i n).length = n := by simp [sampled]

theorem handed_succ (i k : Nat) :
    f.handed i (k + 1) = f.handed i k ++ (f.pass k).frames[i]?.toList := by
  rw [handed, List.range_succ, List.filterMap_append]
  rfl

theorem slot_lt {i k : Nat} {slot : SampleSlot} (h : (f.before k).slots[i]? = some slot) :
    i < f.width := by
  rw [← f.length_slots k]
  exact (List.getElem?_eq_some_iff.mp h).1

theorem slot_succ {i k : Nat} {slot : SampleSlot} (h : (f.before k).slots[i]? = some slot) :
    (f.before (k + 1)).slots[i]? = some (slot.keep (f.conversion k i)).1 := by
  have hround : (f.round k)[i]? = some (f.conversion k i) := by
    rw [round, List.getElem?_map, List.getElem?_range (f.slot_lt h)]
    rfl
  have hzip := List.getElem?_zip_eq_some (z := (slot, f.conversion k i)).mpr ⟨h, hround⟩
  have hdrop : (f.before k).slots.drop (f.round k).length = [] :=
    List.drop_of_length_le (Nat.le_of_eq (by rw [f.length_slots, f.length_round]))
  rw [before_succ, pass, SamplingLoop.pass_slots, hdrop, List.append_nil, List.getElem?_map, hzip]
  rfl

theorem zip_slots (k : Nat) :
    ((f.before k).slots.zip (f.round k)).map Prod.fst = (f.before k).slots :=
  List.map_fst_zip (Nat.le_of_eq (by rw [f.length_slots, f.length_round]))

theorem zip_round (k : Nat) :
    ((f.before k).slots.zip (f.round k)).map Prod.snd = f.round k :=
  List.map_snd_zip (Nat.le_of_eq (by rw [f.length_slots, f.length_round]))

/-- At pass `k` all buffers are full, or none is. -/
def Due (k : Nat) : Prop := k ≠ 0 ∧ k % Frame.capacity = 0

instance (k : Nat) : Decidable (Due k) := inferInstanceAs (Decidable (_ ∧ _))

def Uniform (k : Nat) : Prop :=
  ∀ slot ∈ (f.before k).slots, slot.buffer.length = Frame.capacity ↔ Due k

variable {f}

theorem Uniform.filterMap_events {β : Type} {k : Nat} (h : f.Uniform k)
    {g : SampleEvent → Option β} {o : SampleSlot × Conversion → β}
    (hread : ∀ sensor raw, g (.read sensor raw) = none)
    (hframe : ∀ x, g (.frame (SampleSlot.spec x.1).sensor x.1.frame x.2.link) = some (o x)) :
    (f.pass k).events.filterMap g =
      if Due k then ((f.before k).slots.zip (f.round k)).map o else [] := by
  have hmem : ∀ x ∈ (f.before k).slots.zip (f.round k), x.1 ∈ (f.before k).slots := fun x hx =>
    f.zip_slots k ▸ List.mem_map_of_mem hx
  have hsplit : (f.pass k).events =
      ((f.before k).slots.zip (f.round k)).flatMap fun x => x.1.events x.2 :=
    (SamplingLoop.pass_accounts _ _ _).1
  rw [hsplit, List.filterMap_flatMap]
  by_cases hk : Due k
  · have hx : ∀ x ∈ (f.before k).slots.zip (f.round k),
        (x.1.events x.2).filterMap g = [o x] := by
      intro x hx
      rw [SampleSlot.events_of_full ((h x.1 (hmem x hx)).mpr hk)]
      simp [hread, hframe]
    rw [if_pos hk, List.flatMap_congr hx, ← List.map_eq_flatMap]
  · have hx : ∀ x ∈ (f.before k).slots.zip (f.round k), (x.1.events x.2).filterMap g = [] := by
      intro x hx
      rw [SampleSlot.events_of_room fun hfull => hk ((h x.1 (hmem x hx)).mp hfull)]
      simp [hread]
    rw [if_neg hk, List.flatMap_congr hx]
    simp

theorem Uniform.frames {k : Nat} (h : f.Uniform k) :
    (f.pass k).frames = if Due k then (f.before k).slots.map SampleSlot.frame else [] := by
  have hframes := h.filterMap_events (g := SampleEvent.bytes?) (o := SampleSlot.frame ∘ Prod.fst)
    (fun _ _ => rfl) (fun _ => rfl)
  rw [← List.map_map, f.zip_slots] at hframes
  exact hframes

variable (f)

/-- Slot `i` before pass `k`: whole frames of its samples have been handed over, and
the rest of them wait. -/
def Streams (i k : Nat) (spec : SensorSpec) : Prop :=
  ∃ slot batches, (f.before k).slots[i]? = some slot ∧ slot.spec = spec ∧
    slot.Streams batches (f.sampled i k) ∧
    f.handed i k = batches.map (Frame.bytes spec.sensor.id)

variable {f}

theorem uniform_of_streams {k : Nat}
    (h : ∀ i spec, f.group.sensors[i]? = some spec → f.Streams i k spec) : f.Uniform k := by
  intro slot hm
  obtain ⟨i, hi⟩ := List.mem_iff_getElem?.mp hm
  have hspec : f.group.sensors[i]? = some slot.spec := by
    rw [← f.before_specs k, List.getElem?_map, hi]
    rfl
  obtain ⟨slot', batches, hslot, -, hs, -⟩ := h i slot.spec hspec
  obtain rfl := Option.some.inj (hi.symm.trans hslot)
  rw [hs.full_iff, length_sampled]
  rfl

theorem Streams.succ {i k : Nat} {spec : SensorSpec} (h : f.Streams i k spec)
    (hk : f.Uniform k) : f.Streams i (k + 1) spec := by
  obtain ⟨slot, batches, hslot, rfl, hs, hhanded⟩ := h
  have hnext := f.slot_succ hslot
  have hspec := slot.keep_spec (f.conversion k i)
  have hdue := hk slot (List.mem_of_getElem? hslot)
  by_cases hfull : slot.buffer.length = Frame.capacity
  · have hframe : (f.pass k).frames[i]? = some slot.frame := by
      rw [hk.frames, if_pos (hdue.mp hfull), List.getElem?_map, hslot]
      rfl
    refine ⟨_, batches ++ [slot.buffer.toList], hnext, hspec, ?_, ?_⟩
    · rw [f.sampled_succ]
      exact hs.full hfull _
    · rw [f.handed_succ, hhanded, hframe, List.map_append]
      rfl
  · have hframe : (f.pass k).frames[i]? = none := by
      rw [hk.frames, if_neg (mt hdue.mpr hfull)]
      rfl
    have hroom := Nat.lt_of_le_of_ne slot.length_le_capacity hfull
    refine ⟨_, batches, hnext, hspec, ?_, ?_⟩
    · rw [f.sampled_succ]
      exact hs.room hroom _
    · rw [f.handed_succ, hhanded, hframe]
      exact List.append_nil _

theorem streams (f : Feed) (i k : Nat) {spec : SensorSpec}
    (hspec : f.group.sensors[i]? = some spec) : f.Streams i k spec := by
  induction k generalizing i spec with
  | zero =>
    refine ⟨.ofSpec spec, [], ?_, rfl, ?_, rfl⟩
    · simp [before, SamplingLoop.ofGroup, hspec]
    · exact ⟨Ring.toList_empty (by decide), by simp, fun hne => absurd rfl hne⟩
  | succ k ih =>
    -- Which frame of the pass is that of slot `i` depends on all slots, so `ih` is for all.
    exact (ih i hspec).succ (uniform_of_streams fun j _ hj => ih j hj)

theorem uniform (f : Feed) (k : Nat) : f.Uniform k :=
  uniform_of_streams fun i _ hi => f.streams i k hi

theorem length_of_mem_frames {k : Nat} {frame : List UInt8} (h : frame ∈ (f.pass k).frames) :
    frame.length = Frame.length := by
  rw [(f.uniform k).frames] at h
  split at h
  · rename_i hk
    obtain ⟨slot, hm, rfl⟩ := List.mem_map.mp h
    rw [SampleSlot.frame, Frame.length_bytes, Ring.length_toList, (f.uniform k slot hm).mpr hk]
    rfl
  · cases h

def senders (f : Feed) (k : Nat) : List Sensor :=
  (f.pass k).events.filterMap SampleEvent.sender?

theorem senders_eq (f : Feed) (k : Nat) :
    f.senders k = if Due k then f.group.sensors.map (·.sensor) else [] := by
  have hsenders := (f.uniform k).filterMap_events (g := SampleEvent.sender?)
    (o := (fun slot : SampleSlot => slot.spec.sensor) ∘ Prod.fst) (fun _ _ => rfl) (fun _ => rfl)
  rw [senders, hsenders, ← List.map_map, f.zip_slots, ← f.before_specs k, List.map_map]
  rfl

/-- What the link answers to the frames of the first `n` passes, in order. -/
def answers (f : Feed) (n : Nat) : List (Option LinkFault) :=
  (List.range n).flatMap fun k => if Due k then (f.round k).map (·.link) else []

def sent (f : Feed) (n : Nat) : Nat := (f.answers n).countP Option.isNone

def dropped (f : Feed) (n : Nat) : Nat := (f.answers n).countP Option.isSome

theorem pass_answers (f : Feed) (k : Nat) :
    (f.pass k).events.filterMap SampleEvent.answer? =
      if Due k then (f.round k).map (·.link) else [] := by
  have hanswers := (f.uniform k).filterMap_events (g := SampleEvent.answer?)
    (o := (fun c : Conversion => c.link) ∘ Prod.snd) (fun _ _ => rfl) (fun _ => rfl)
  rw [hanswers, ← List.map_map, f.zip_round]

theorem answers_succ (f : Feed) (k : Nat) :
    f.answers (k + 1) = f.answers k ++ if Due k then (f.round k).map (·.link) else [] := by
  simp [answers, List.range_succ]

theorem div_capacity (k : Nat) :
    k / Frame.capacity = (k - 1) / Frame.capacity + if Due k then 1 else 0 := by
  by_cases hk : Due k <;> simp only [hk, if_true, if_false]
  · simp only [Due, Frame.capacity] at hk ⊢
    omega
  · simp only [Due, Frame.capacity] at hk ⊢
    omega

theorem length_answers (f : Feed) (k : Nat) :
    (f.answers k).length = f.width * ((k - 1) / Frame.capacity) := by
  induction k with
  | zero => rfl
  | succ k ih =>
    have hpass : (if Due k then (f.round k).map (·.link) else []).length =
        f.width * if Due k then 1 else 0 := by
      split <;> simp [f.length_round]
    rw [answers_succ, List.length_append, ih, hpass, ← Nat.mul_add, Nat.add_sub_cancel,
      ← div_capacity]

theorem sent_add_dropped (f : Feed) (k : Nat) :
    f.sent k + f.dropped k = f.width * ((k - 1) / Frame.capacity) := by
  have hdropped : f.dropped k = (f.answers k).countP fun l => ¬ l.isNone :=
    List.countP_congr fun l _ => by simp [Option.isSome_iff_ne_none]
  rw [sent, hdropped, ← List.length_eq_countP_add_countP, length_answers]

theorem stats_eq (f : Feed) (k : Nat) :
    (f.before k).stats =
      ⟨UInt64.ofNat k, UInt64.ofNat (f.sent k), UInt64.ofNat (f.dropped k)⟩ := by
  induction k with
  | zero => rfl
  | succ k ih =>
    have hpass : (f.pass k).loop.stats =
        { (f.before k).stats.tally ((f.pass k).events.filterMap SampleEvent.answer?) with
          cycles := (f.before k).stats.cycles + 1 } :=
      (SamplingLoop.pass_accounts _ _ _).2
    rw [before_succ, hpass, pass_answers, ih]
    simp only [sent, dropped, answers_succ, List.countP_append, UInt64.ofNat_add]
    rfl

/-- Sampling loses, duplicates and reorders nothing. After `n + 1` passes the frames
of a slot decode to sixteen items each, and these followed by the items that wait
are what the slot was given. Frames go out in the order of the group. The loop counts
its passes, the frames that the link takes and those it does not; the counters wrap. -/
theorem sampling_is_lossless (f : Feed) (n : Nat) :
    (∀ i spec, f.group.sensors[i]? = some spec →
        ∃ (slot : SampleSlot) (batches : List (List Item)),
          (f.before (n + 1)).slots[i]? = some slot ∧ slot.spec = spec ∧
          (f.handed i (n + 1)).map Frame.decode =
            batches.map (fun items => .ok (⟨spec.sensor.id, 256⟩, items)) ∧
          batches.flatten ++ slot.buffer.toList = f.sampled i (n + 1) ∧
          (∀ items ∈ batches, items.length = 16) ∧ batches.length = n / 16 ∧
          slot.buffer.length = n % 16 + 1) ∧
      (∀ k, ∀ frame ∈ (f.pass k).frames, frame.length = Frame.length) ∧
      (∀ k, f.senders k = [] ∨ f.senders k = f.group.sensors.map (·.sensor)) ∧
      ((f.before (n + 1)).stats.cycles : Nat) = (n + 1) % UInt64.size ∧
      ((f.before (n + 1)).stats.framesSent : Nat) = f.sent (n + 1) % UInt64.size ∧
      ((f.before (n + 1)).stats.framesDropped : Nat) = f.dropped (n + 1) % UInt64.size ∧
      f.sent (n + 1) + f.dropped (n + 1) = f.width * (n / 16) := by
  have hmod : ∀ m : Nat, (UInt64.ofNat m : Nat) = m % UInt64.size := fun _ => UInt64.toNat_ofNat'
  refine ⟨?_, fun k frame h => length_of_mem_frames h, ?_, ?_⟩
  · intro i spec hspec
    obtain ⟨slot, batches, hslot, hs, hstreams, hhanded⟩ := f.streams i (n + 1) hspec
    have hlength := hstreams.length_eq
    have hne : f.sampled i (n + 1) ≠ [] := by
      rw [sampled_succ]
      simp
    have hwait := hstreams.waiting hne
    have hmax := slot.length_le_capacity
    rw [length_sampled] at hlength
    simp only [Frame.capacity] at hlength hmax
    refine ⟨slot, batches, hslot, hs, ?_, hstreams.joined, hstreams.whole, by omega, by omega⟩
    rw [hhanded, List.map_map]
    apply List.map_congr_left
    intro items hm
    have hitems : items.length = 16 := hstreams.whole items hm
    have hfits : items.length * Frame.itemLength ≤ Frame.maxPayload := by
      rw [hitems]
      decide
    have hdecode := Frame.decode_bytes spec.sensor.id hfits []
    rw [List.append_nil, hitems] at hdecode
    exact hdecode
  · intro k
    rw [f.senders_eq]
    split
    · exact .inr rfl
    · exact .inl rfl
  · rw [f.stats_eq, hmod, hmod, hmod, f.sent_add_dropped]
    exact ⟨rfl, rfl, rfl, rfl⟩

end Feed

end HotFire
