/-! A ring buffer of fixed slots. One slot always stays free, so that a full ring
and an empty one differ. -/

namespace HotFire

inductive PushStatus where
  | ok
  | full
  deriving DecidableEq, Repr

/-- `head` is the next slot to fill, `tail` the oldest item. -/
structure Ring (α : Type) (slots : Nat) where
  cells : Vector α slots
  head : Fin slots
  tail : Fin slots

namespace Ring

variable {α : Type} {slots : Nat}

def empty [Inhabited α] (h : 2 ≤ slots) : Ring α slots where
  cells := Vector.replicate slots default
  head := ⟨0, by omega⟩
  tail := ⟨0, by omega⟩

/-- The slot after `i`, around the end. -/
def next (i : Fin slots) : Fin slots :=
  ⟨(i.val + 1) % slots, Nat.mod_lt _ (Nat.lt_of_le_of_lt (Nat.zero_le _) i.isLt)⟩

def capacity (_ : Ring α slots) : Nat := slots - 1

def length (r : Ring α slots) : Nat := (r.head.val + slots - r.tail.val) % slots

def isEmpty (r : Ring α slots) : Bool := r.head == r.tail

def isFull (r : Ring α slots) : Bool := next r.head == r.tail

/-- Appends an item; a full ring refuses it and stays as it is. -/
def push (r : Ring α slots) (item : α) : Ring α slots × PushStatus :=
  if r.isFull then (r, .full)
  else ({ r with cells := r.cells.set r.head.val item r.head.isLt, head := next r.head }, .ok)

def peek? (r : Ring α slots) : Option α :=
  if r.isEmpty then none else some r.cells[r.tail]

def pop (r : Ring α slots) : Option α × Ring α slots :=
  if r.isEmpty then (none, r) else (some r.cells[r.tail], { r with tail := next r.tail })

/-- Takes items one by one, at most `n`, until the ring is empty. -/
def popUpTo : Nat → Ring α slots → List α × Ring α slots
  | 0, r => ([], r)
  | n + 1, r =>
    match r.pop with
    | (none, r) => ([], r)
    | (some item, r) =>
      let (items, r) := popUpTo n r
      (item :: items, r)

/-- Appends items in turn and counts those that were taken. -/
def pushAll (r : Ring α slots) (items : List α) : Ring α slots × Nat :=
  items.foldl (fun (r, n) item =>
    match r.push item with
    | (r, .ok) => (r, n + 1)
    | (r, .full) => (r, n)) (r, 0)

/-- The slot `i` places after the tail. -/
def slot (r : Ring α slots) (i : Nat) : Fin slots :=
  ⟨(r.tail.val + i) % slots, Nat.mod_lt _ (Nat.lt_of_le_of_lt (Nat.zero_le _) r.tail.isLt)⟩

/-- The items held, oldest first. -/
def toList (r : Ring α slots) : List α :=
  (List.range r.length).map fun i => r.cells[r.slot i]

end Ring

end HotFire
