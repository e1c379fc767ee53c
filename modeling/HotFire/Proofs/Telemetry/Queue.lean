import HotFire.Proofs.Telemetry.Ring

/-! A ring next to the bounded queue that it stands for. Both answer every call alike,
however often the ring has turned, and a slot keeps its item until the item is taken. -/

namespace HotFire

inductive QueueCall (α : Type) where
  | push (item : α)
  | pop
  | peek

inductive QueueReply (α : Type) where
  | pushed (status : PushStatus)
  | popped (item : Option α)
  | peeked (item : Option α)
  deriving DecidableEq

namespace QueueReply

variable {α : Type}

def stores : QueueReply α → Bool
  | .pushed .ok => true
  | _ => false

def takes : QueueReply α → Bool
  | .popped (some _) => true
  | _ => false

end QueueReply

/-- Calls answered in turn, with what the last of them leaves. -/
def answers {σ α : Type} (act : σ → QueueCall α → QueueReply α × σ) :
    σ → List (QueueCall α) → List (QueueReply α) × σ
  | s, [] => ([], s)
  | s, call :: calls =>
    let (reply, next) := act s call
    let (replies, last) := answers act next calls
    (reply :: replies, last)

/-- First in, first out, and no more than `capacity` items. -/
structure BoundedQueue (α : Type) (capacity : Nat) where
  items : List α
  bounded : items.length ≤ capacity

namespace BoundedQueue

variable {α : Type} {capacity : Nat}

def empty : BoundedQueue α capacity := ⟨[], Nat.zero_le _⟩

def act (q : BoundedQueue α capacity) : QueueCall α → QueueReply α × BoundedQueue α capacity
  | .push item =>
    if h : q.items.length < capacity then
      (.pushed .ok, ⟨q.items ++ [item], by
        rw [List.length_append, List.length_singleton]
        exact h⟩)
    else (.pushed .full, q)
  | .pop =>
    (.popped q.items.head?, ⟨q.items.tail, by
      rw [List.length_tail]
      exact Nat.le_trans (Nat.sub_le _ _) q.bounded⟩)
  | .peek => (.peeked q.items.head?, q)

end BoundedQueue

namespace Ring

variable {α : Type} {slots : Nat}

def act (r : Ring α slots) : QueueCall α → QueueReply α × Ring α slots
  | .push item => (.pushed (r.push item).2, (r.push item).1)
  | .pop => (.popped r.pop.1, r.pop.2)
  | .peek => (.peeked r.peek?, r)

/-- The slots of the items held. -/
def live (r : Ring α slots) : List (Fin slots) := (List.range r.length).map r.slot

theorem head_not_live (r : Ring α slots) : r.head ∉ r.live := by
  intro hm
  obtain ⟨i, hi, heq⟩ := List.mem_map.mp hm
  exact r.head_ne_slot (List.mem_range.mp hi) (congrArg Fin.val heq.symm)

theorem peek?_eq (r : Ring α slots) : r.peek? = r.toList.head? := by
  cases ht : r.toList with
  | nil => exact if_pos (r.isEmpty_iff.mpr (r.toList_eq_nil_iff.mp ht))
  | cons item items =>
    have hne : ¬ r.isEmpty = true := by
      intro he
      rw [r.toList_eq_nil_iff.mpr (r.isEmpty_iff.mp he)] at ht
      exact List.cons_ne_nil _ _ ht.symm
    have hpeek : r.peek? = r.pop.1 := by rw [peek?, pop, if_neg hne, if_neg hne]
    rw [hpeek, (pop_of_cons ht).1, List.head?_cons]

/-- The ring answers a call as the queue does, and goes on standing for it. -/
theorem act_of_queue {r : Ring α slots} {q : BoundedQueue α (slots - 1)}
    (h : r.toList = q.items) (call : QueueCall α) :
    (r.act call).1 = (q.act call).1 ∧ (r.act call).2.toList = (q.act call).2.items := by
  have hlen : r.length = q.items.length := by rw [← length_toList, h]
  have hlt := r.length_lt
  cases call with
  | push item =>
    by_cases hroom : q.items.length < slots - 1
    · obtain ⟨hok, hitems⟩ := push_of_room (r := r) (by omega) item
      simp only [act, BoundedQueue.act, hroom, dif_pos]
      exact ⟨congrArg _ hok, by rw [hitems, h]⟩
    · have hfull := push_of_full (r := r) (by omega) item
      simp only [act, BoundedQueue.act, hroom, dif_neg, not_false_eq_true, hfull]
      exact ⟨trivial, h⟩
  | pop =>
    simp only [act, BoundedQueue.act, ← h]
    cases ht : r.toList with
    | nil =>
      rw [pop_of_nil ht]
      exact ⟨rfl, ht⟩
    | cons item items =>
      obtain ⟨hitem, hrest⟩ := pop_of_cons ht
      exact ⟨congrArg _ hitem, hrest⟩
  | peek =>
    simp only [act, BoundedQueue.act, ← h]
    exact ⟨congrArg _ r.peek?_eq, trivial⟩

theorem answers_of_queue {r : Ring α slots} {q : BoundedQueue α (slots - 1)}
    (h : r.toList = q.items) (calls : List (QueueCall α)) :
    (answers act r calls).1 = (answers BoundedQueue.act q calls).1 ∧
      (answers act r calls).2.toList = (answers BoundedQueue.act q calls).2.items := by
  induction calls generalizing r q with
  | nil => exact ⟨rfl, h⟩
  | cons call calls ih =>
    obtain ⟨hreply, hnext⟩ := act_of_queue h call
    obtain ⟨hreplies, hlast⟩ := ih hnext
    exact ⟨congr (congrArg List.cons hreply) hreplies, hlast⟩

/-- A call writes no slot but the one at `head`, and a stored or taken item moves one
of the two positions by one. -/
theorem act_moves (r : Ring α slots) (call : QueueCall α) :
    (∀ i ≠ r.head, (r.act call).2.cells[i] = r.cells[i]) ∧
      (r.act call).2.head = (if (r.act call).1.stores then next r.head else r.head) ∧
      (r.act call).2.tail = (if (r.act call).1.takes then next r.tail else r.tail) := by
  cases call with
  | push item =>
    cases hf : r.isFull with
    | true => simp [act, push, hf, QueueReply.stores, QueueReply.takes]
    | false =>
      simp only [act, push, hf, Bool.false_eq_true, if_false, QueueReply.stores,
        QueueReply.takes, if_true, and_self, and_true]
      intro i hi
      exact Vector.getElem_set_ne _ _ (fun he => hi (Fin.ext he.symm))
  | pop => cases he : r.isEmpty <;> simp [act, pop, he, QueueReply.stores, QueueReply.takes]
  | peek => simp [act, QueueReply.stores, QueueReply.takes]

theorem answers_moves (r : Ring α slots) (calls : List (QueueCall α)) :
    (answers act r calls).2.head.val =
        (r.head.val + (answers act r calls).1.countP QueueReply.stores) % slots ∧
      (answers act r calls).2.tail.val =
        (r.tail.val + (answers act r calls).1.countP QueueReply.takes) % slots := by
  induction calls generalizing r with
  | nil => exact ⟨(Nat.mod_eq_of_lt r.head.isLt).symm, (Nat.mod_eq_of_lt r.tail.isLt).symm⟩
  | cons call calls ih =>
    obtain ⟨-, hhead, htail⟩ := r.act_moves call
    obtain ⟨ihhead, ihtail⟩ := ih (r.act call).2
    rw [hhead] at ihhead
    rw [htail] at ihtail
    simp only [answers, List.countP_cons]
    refine ⟨ihhead.trans ?_, ihtail.trans ?_⟩
    · split
      · simp only [next, Nat.mod_add_mod]
        congr 1
        omega
      · rfl
    · split
      · simp only [next, Nat.mod_add_mod]
        congr 1
        omega
      · rfl

/-- A new ring serves as a queue with room for one item less than it has slots. After any
calls both have given the same replies and hold the same items, the ring tells their number,
`head` and `tail` have gone once around for every `slots` items stored and taken, a full ring
refuses an item and stays as it is, and no call writes a slot but the one at `head`, which
holds no item. -/
theorem ring_serves_as_queue [Inhabited α] (hslots : 2 ≤ slots) (calls : List (QueueCall α)) :
    let (replies, r) := answers act (empty hslots : Ring α slots) calls
    let (expected, q) := answers BoundedQueue.act (.empty : BoundedQueue α (slots - 1)) calls
    replies = expected ∧ r.toList = q.items ∧
      r.length = q.items.length ∧ (r.isEmpty = true ↔ q.items = []) ∧
      (r.isFull = true ↔ q.items.length = slots - 1) ∧
      r.head.val = replies.countP QueueReply.stores % slots ∧
      r.tail.val = replies.countP QueueReply.takes % slots ∧
      (q.items.length = slots - 1 → ∀ item, r.push item = (r, .full)) ∧
      r.head ∉ r.live ∧ ∀ call, ∀ i ≠ r.head, (r.act call).2.cells[i] = r.cells[i] := by
  obtain ⟨hreplies, hitems⟩ := answers_of_queue (r := (empty hslots : Ring α slots)) (q := .empty)
    (toList_empty hslots) calls
  obtain ⟨hhead, htail⟩ := answers_moves (empty hslots : Ring α slots) calls
  generalize answers act (empty hslots : Ring α slots) calls = ring at *
  generalize answers BoundedQueue.act (.empty : BoundedQueue α (slots - 1)) calls = queue at *
  obtain ⟨replies, r⟩ := ring
  obtain ⟨expected, q⟩ := queue
  have hlen : r.length = q.items.length := by rw [← length_toList, hitems]
  have hfull : r.length + 1 = slots ↔ q.items.length = slots - 1 := by omega
  refine ⟨hreplies, hitems, hlen, ?_, r.isFull_iff.trans hfull, ?_, ?_, ?_, r.head_not_live,
    fun call => (r.act_moves call).1⟩
  · rw [isEmpty_iff, hlen, List.length_eq_zero_iff]
  · rw [hhead, empty, Nat.zero_add]
  · rw [htail, empty, Nat.zero_add]
  · exact fun h item => push_of_full (hfull.mpr h) item

/-- Two items at most: the third is refused, and `head` comes back to the first slot. -/
theorem ring_serves_as_queue_of_turned :
    let calls : List (QueueCall Nat) := [.push 1, .push 2, .push 3, .pop, .push 4, .pop, .peek]
    let (replies, r) := answers act (empty (by decide) : Ring Nat 3) calls
    2 ≤ 3 ∧ replies = [.pushed .ok, .pushed .ok, .pushed .full, .popped (some 1), .pushed .ok,
        .popped (some 2), .peeked (some 4)] ∧
      r.toList = [4] ∧ r.head.val = 0 ∧ r.tail.val = 2 ∧ r.head ∉ r.live := by
  intro calls
  obtain ⟨hreplies, hitems, -, -, -, hhead, htail, -, hlive, -⟩ :=
    @ring_serves_as_queue Nat 3 _ (by decide) calls
  exact ⟨by decide, hreplies, hitems, hhead, htail, hlive⟩

end Ring
end HotFire
