import HotFire.Telemetry.Ring

/-! A ring is a queue: `toList` is its oldest item first, a push appends to it and
a pop takes its head, however far the ring has turned. -/

namespace HotFire
namespace Ring

variable {α : Type} {slots : Nat}

theorem next_val (i : Fin slots) : (next i).val = if i.val + 1 = slots then 0 else i.val + 1 := by
  have hi := i.isLt
  simp only [next]
  split
  · rename_i h
    rw [h, Nat.mod_self]
  · exact Nat.mod_eq_of_lt (by omega)

theorem slot_val (r : Ring α slots) {i : Nat} (hi : i < slots) :
    (r.slot i).val =
      if r.tail.val + i < slots then r.tail.val + i else r.tail.val + i - slots := by
  have ht := r.tail.isLt
  simp only [slot]
  split
  · rename_i h
    exact Nat.mod_eq_of_lt h
  · rw [Nat.mod_eq_sub_mod (by omega)]
    exact Nat.mod_eq_of_lt (by omega)

theorem length_eq (r : Ring α slots) :
    r.length =
      if r.tail.val ≤ r.head.val then r.head.val - r.tail.val
      else r.head.val + slots - r.tail.val := by
  have hh := r.head.isLt
  have ht := r.tail.isLt
  simp only [length]
  split
  · have hs : r.head.val + slots - r.tail.val = r.head.val - r.tail.val + slots := by omega
    rw [hs, Nat.add_mod_right]
    exact Nat.mod_eq_of_lt (by omega)
  · exact Nat.mod_eq_of_lt (by omega)

theorem length_lt (r : Ring α slots) : r.length < slots := by
  have hh := r.head.isLt
  have ht := r.tail.isLt
  rw [length_eq]
  split <;> omega

theorem isEmpty_iff (r : Ring α slots) : r.isEmpty = true ↔ r.length = 0 := by
  have hh := r.head.isLt
  have ht := r.tail.isLt
  rw [isEmpty, beq_iff_eq, Fin.ext_iff, length_eq]
  split <;> omega

theorem isFull_iff (r : Ring α slots) : r.isFull = true ↔ r.length + 1 = slots := by
  have hh := r.head.isLt
  have ht := r.tail.isLt
  rw [isFull, beq_iff_eq, Fin.ext_iff, next_val, length_eq]
  split <;> split <;> omega

@[simp] theorem length_toList (r : Ring α slots) : r.toList.length = r.length := by
  simp [toList]

theorem toList_eq_nil_iff (r : Ring α slots) : r.toList = [] ↔ r.length = 0 := by
  rw [← List.length_eq_zero_iff, length_toList]

@[simp] theorem toList_empty [Inhabited α] (h : 2 ≤ slots) :
    (empty h : Ring α slots).toList = [] := by
  rw [toList_eq_nil_iff, length_eq]
  simp [empty]

theorem slot_zero (r : Ring α slots) : r.slot 0 = r.tail := by
  have ht := r.tail.isLt
  rw [Fin.ext_iff, slot_val r (by omega)]
  simp

/-- The slot after the last item is the one that a push fills. -/
theorem slot_length (r : Ring α slots) : r.slot r.length = r.head := by
  have hh := r.head.isLt
  have ht := r.tail.isLt
  have hl := r.length_eq
  rw [Fin.ext_iff, slot_val r r.length_lt]
  split at hl <;> split <;> omega

theorem slot_next (r : Ring α slots) {i : Nat} (hi : i + 1 < slots) :
    slot { r with tail := next r.tail } i = r.slot (i + 1) := by
  have ht := r.tail.isLt
  rw [Fin.ext_iff, slot_val _ (Nat.lt_of_succ_lt hi), slot_val r hi]
  simp only [next_val]
  split <;> split <;> split <;> omega

theorem head_ne_slot (r : Ring α slots) {i : Nat} (hi : i < r.length) :
    r.head.val ≠ (r.slot i).val := by
  have hh := r.head.isLt
  have ht := r.tail.isLt
  have hl := r.length_eq
  rw [slot_val r (Nat.lt_trans hi r.length_lt)]
  split at hl <;> split <;> omega

theorem length_fill {r : Ring α slots} (h : r.length + 1 < slots) (cells : Vector α slots) :
    length { r with cells, head := next r.head } = r.length + 1 := by
  have hh := r.head.isLt
  have ht := r.tail.isLt
  rw [length_eq] at h ⊢
  rw [length_eq]
  simp only [next_val]
  split at h <;> split <;> split <;> omega

theorem length_free {r : Ring α slots} (h : r.length ≠ 0) :
    length { r with tail := next r.tail } = r.length - 1 := by
  have hh := r.head.isLt
  have ht := r.tail.isLt
  rw [length_eq] at h ⊢
  rw [length_eq]
  simp only [next_val]
  split at h <;> split <;> split <;> omega

theorem push_of_full {r : Ring α slots} (h : r.length + 1 = slots) (item : α) :
    r.push item = (r, .full) :=
  if_pos (r.isFull_iff.mpr h)

theorem push_of_room {r : Ring α slots} (h : r.length + 1 < slots) (item : α) :
    (r.push item).2 = .ok ∧ (r.push item).1.toList = r.toList ++ [item] := by
  let cells := r.cells.set r.head.val item r.head.isLt
  have hpush : r.push item = ({ r with cells, head := next r.head }, .ok) := if_neg fun hf => by
    have hfull := r.isFull_iff.mp hf
    omega
  -- The slots of the items held are those of `r`, and the new item is in the next.
  have hold : ∀ i ∈ List.range r.length, cells[r.slot i] = r.cells[r.slot i] := fun i hi =>
    Vector.getElem_set_ne r.head.isLt _ (r.head_ne_slot (List.mem_range.mp hi))
  have hnew : cells[r.slot r.length] = item := by
    have hslot := congrArg (fun i : Fin slots => cells[i]) r.slot_length
    exact hslot.trans (Vector.getElem_set_self r.head.isLt)
  refine ⟨by rw [hpush], ?_⟩
  rw [hpush, toList, length_fill h, List.range_succ, List.map_append, toList]
  exact congr (congrArg _ (List.map_congr_left hold)) (congrArg ([·]) hnew)

theorem pop_of_nil {r : Ring α slots} (h : r.toList = []) : r.pop = (none, r) :=
  if_pos (r.isEmpty_iff.mpr (r.toList_eq_nil_iff.mp h))

theorem pop_of_cons {r : Ring α slots} {item : α} {items : List α}
    (h : r.toList = item :: items) : r.pop.1 = some item ∧ r.pop.2.toList = items := by
  have hlen : r.length = items.length + 1 := by
    rw [← length_toList, h, List.length_cons]
  have hne : r.length ≠ 0 := by omega
  have hpop : r.pop = (some r.cells[r.tail], { r with tail := next r.tail }) :=
    if_neg fun he => hne (r.isEmpty_iff.mp he)
  rw [toList, hlen, List.range_succ_eq_map, List.map_cons, List.map_map] at h
  obtain ⟨hitem, hitems⟩ := List.cons.inj h
  have hzero := congrArg (fun i : Fin slots => some r.cells[i]) r.slot_zero
  rw [hpop]
  refine ⟨hzero.symm.trans (congrArg some hitem), ?_⟩
  rw [toList, length_free hne, hlen, Nat.add_sub_cancel]
  refine Eq.trans (List.map_congr_left ?_) hitems
  intro i hi
  have hroom : i + 1 < slots := by
    have hlt := r.length_lt
    have hle := List.mem_range.mp hi
    omega
  exact congrArg (fun i : Fin slots => r.cells[i]) (r.slot_next hroom)

theorem popUpTo_eq (n : Nat) (r : Ring α slots) :
    (popUpTo n r).1 = r.toList.take n ∧ (popUpTo n r).2.toList = r.toList.drop n := by
  induction n generalizing r with
  | zero => exact ⟨rfl, rfl⟩
  | succ n ih =>
    cases ht : r.toList with
    | nil => simp [popUpTo, pop_of_nil ht, ht]
    | cons item items =>
      obtain ⟨hitem, hrest⟩ := pop_of_cons ht
      obtain ⟨htake, hdrop⟩ := ih r.pop.2
      have hpop : r.pop = (some item, r.pop.2) := Prod.ext hitem rfl
      rw [popUpTo, hpop]
      rw [hrest] at htake hdrop
      exact ⟨by simp [htake], by simpa using hdrop⟩

end Ring
end HotFire
