import LineShell.Failure

/-!
Rings: queues of bounded size. A ring fills its slots one after the other; once all are in use,
every new entry takes the slot of the oldest one. Position 0 is always the oldest entry.
-/

namespace LineShell

/-- A queue of at most `capacity` entries. Until all slots are in use, slot 0 holds the oldest. -/
structure Ring (α : Type) where
  capacity : Nat
  slots : Array α
  oldest : Nat
  oldest_lt : oldest < capacity
  size_le : slots.size ≤ capacity
  oldest_eq_zero : slots.size < capacity → oldest = 0

namespace Ring

variable {α : Type}

/-- The ring without entries. -/
def empty (capacity : Nat) (h : 0 < capacity) : Ring α :=
  ⟨capacity, #[], 0, h, Nat.zero_le _, fun _ => rfl⟩

/-- The number of entries. -/
def size (r : Ring α) : Nat :=
  r.slots.size

/-- Whether every slot is in use. -/
def isFull (r : Ring α) : Bool :=
  r.size = r.capacity

/-- The entries, oldest first. -/
def toList (r : Ring α) : List α :=
  r.slots.toList.drop r.oldest ++ r.slots.toList.take r.oldest

/-- The slot of the entry at a position. -/
def slotOf (r : Ring α) (position : Nat) : Nat :=
  (r.oldest + position) % r.capacity

/-- The entry at a position. -/
def get? (r : Ring α) (position : Nat) : Option α :=
  if position < r.size then r.slots[r.slotOf position]? else none

/-- The newest entry. -/
def last? (r : Ring α) : Option α :=
  if r.size = 0 then none else r.slots[r.slotOf (r.size - 1)]?

/-- The ring with another entry at a position that is in use. -/
def set (r : Ring α) (position : Nat) (a : α) : Ring α :=
  if position < r.size then
    { r with
      slots := r.slots.setIfInBounds (r.slotOf position) a
      size_le := by simpa using r.size_le
      oldest_eq_zero := by simpa using r.oldest_eq_zero }
  else r

/-- The ring with a new entry. A full ring loses its oldest one. -/
def add (r : Ring α) (a : α) : Ring α :=
  if h : r.slots.size < r.capacity then
    { r with
      slots := r.slots.push a
      size_le := by simpa using Nat.succ_le_of_lt h
      oldest_eq_zero := fun _ => r.oldest_eq_zero h }
  else
    { r with
      slots := r.slots.setIfInBounds r.oldest a
      oldest := (r.oldest + 1) % r.capacity
      oldest_lt := Nat.mod_lt _ (Nat.zero_lt_of_lt r.oldest_lt)
      size_le := by simpa using r.size_le
      oldest_eq_zero := fun hlt => absurd (by simpa using hlt) h }

/-- The ring without its entries. -/
def clear (r : Ring α) : Ring α :=
  empty r.capacity (Nat.zero_lt_of_lt r.oldest_lt)

@[simp] theorem capacity_add (r : Ring α) (a : α) : (r.add a).capacity = r.capacity := by
  unfold add
  split <;> rfl

@[simp] theorem toList_clear (r : Ring α) : r.clear.toList = [] := by
  simp [clear, empty, toList]

theorem size_add (r : Ring α) (a : α) : (r.add a).size = min (r.size + 1) r.capacity := by
  have := r.size_le
  unfold add size
  split
  · simp only [Array.size_push]; omega
  · simp only [Array.size_setIfInBounds]; omega

theorem length_toList (r : Ring α) : r.toList.length = r.size := by
  have h : r.oldest ≤ r.slots.size := by
    rcases Nat.lt_or_ge r.slots.size r.capacity with hlt | hge
    · rw [r.oldest_eq_zero hlt]; exact Nat.zero_le _
    · exact Nat.le_trans (Nat.le_of_lt r.oldest_lt) hge
  simp only [toList, size, List.length_append, List.length_drop, List.length_take,
    Array.length_toList]
  omega

end Ring

end LineShell
