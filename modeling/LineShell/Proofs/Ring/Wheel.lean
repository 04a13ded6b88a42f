import LineShell.Proofs.Operations
import LineShell.Ring.Operation
import LineShell.Ring.View

/-! Rings as wheels. All slots are there from the start, a cursor stands at the newest entry, and the
entries are counted; a position, the newest entry and the run through all entries find their slots
in ways of their own. Main statement: a wheel that starts empty stays that of a ring, whatever
operations are put to both, and shows the entries of that ring in each of these ways. -/
namespace LineShell

variable {α : Type}

/-- A ring by its cursor, which stands before the first slot as long as there is no entry. -/
structure Wheel (α : Type) where
  slots : List (Option α)
  cursor : Int
  count : Nat

namespace Wheel

/-- The wheel without entries. -/
def start (capacity : Nat) : Wheel α :=
  ⟨List.replicate capacity none, -1, 0⟩

def capacity (w : Wheel α) : Nat :=
  w.slots.length

def isFull (w : Wheel α) : Bool :=
  w.count = w.capacity

/-- The slot of the entry at a position, counted back from the cursor. -/
def slotOf (w : Wheel α) (position : Nat) : Nat :=
  ((w.cursor - w.count + 1 + position) % w.capacity).toNat

/-- The entry in a slot, if there is one. -/
def held? (w : Wheel α) (slot : Nat) : Option α :=
  (w.slots[slot]?).join

def get? (w : Wheel α) (position : Nat) : Option α :=
  if position < w.count then w.held? (w.slotOf position) else none

def last? (w : Wheel α) : Option α :=
  if w.count = 0 then none else w.held? w.cursor.toNat

/-- What a run through the wheel finds, oldest entry first. -/
def entries (w : Wheel α) : List (Option α) :=
  let first := w.cursor - w.count + 1
  (List.range w.count).map fun (i : Nat) => w.held? ((first + i) % w.capacity).toNat

def set (w : Wheel α) (position : Nat) (a : α) : Wheel α :=
  { w with slots := w.slots.set (w.slotOf position) (some a) }

/-- The cursor moves on by one slot, back to the first one behind the last, and the entry is put
there. -/
def add (w : Wheel α) (a : α) : Wheel α :=
  let cursor := (w.cursor + 1) % w.capacity
  ⟨w.slots.set cursor.toNat (some a), cursor, if w.count < w.capacity then w.count + 1 else w.count⟩

def clear (w : Wheel α) : Wheel α :=
  start w.capacity

/-- The wheel after an operation. -/
def turn (w : Wheel Value) : Ring.Operation → Wheel Value
  | .add value => w.add value
  | .set position value =>
    match position.toInt? with
    | some n => if 0 ≤ n ∧ n < w.count then w.set n.toNat value else w
    | none => w
  | .clear => w.clear
  | .get _ | .last | .describe => w

/-- A wheel shows the entries of a list, whichever way it is read. -/
structure Shows (w : Wheel α) (q : List α) : Prop where
  entries : w.entries = q.map some
  item : ∀ position, w.get? position = q[position]?
  newest : w.last? = q.getLast?
  count : w.count = q.length
  full : w.isFull = true ↔ q.length = w.capacity

end Wheel

namespace Ring

variable {r : Ring α} {position : Nat}

/-- The wheel of a ring: the slots not in use are free, and the cursor is one slot before the one
that is used next. -/
def wheel (r : Ring α) : Wheel α where
  slots := r.slots.toList.map some ++ List.replicate (r.capacity - r.size) none
  cursor := (if r.oldest = 0 then r.size else r.oldest : Nat) - 1
  count := r.size

@[simp] theorem wheel_count (r : Ring α) : r.wheel.count = r.size := rfl

theorem wheel_cursor (r : Ring α) :
    r.wheel.cursor = (if r.oldest = 0 then r.size else r.oldest : Nat) - 1 := rfl

@[simp] theorem wheel_capacity (r : Ring α) : r.wheel.capacity = r.capacity := by
  have hle : r.slots.size ≤ r.capacity := r.size_le
  simp only [Wheel.capacity, wheel, size, List.length_append, List.length_map, Array.length_toList,
    List.length_replicate]
  omega

/-- Where the oldest entry is not in the first slot, all slots are in use. -/
theorem full_of_oldest (h : r.oldest ≠ 0) : r.size = r.capacity :=
  Nat.le_antisymm r.size_le (Nat.le_of_not_lt fun hfree => h (r.oldest_eq_zero hfree))

theorem wheel_held? {slot : Nat} (h : slot < r.slots.size) :
    r.wheel.held? slot = r.slots[slot]? := by
  have hlength : slot < (r.slots.toList.map some).length := by simpa using h
  rw [Wheel.held?, wheel, List.getElem?_append_left hlength, List.getElem?_map,
    Array.getElem?_toList, Array.getElem?_eq_getElem h]
  rfl

theorem wheel_slotOf (r : Ring α) (position : Nat) :
    r.wheel.slotOf position = r.slotOf position := by
  rw [Wheel.slotOf, slotOf, wheel_capacity, wheel_count, wheel_cursor]
  split
  · next hfirst =>
    have hplace : (r.size : Int) - 1 - r.size + 1 + position = (position : Nat) := by omega
    rw [hplace, hfirst, Nat.zero_add, ← Int.natCast_emod, Int.toNat_natCast]
  · next hturned =>
    have hplace : (r.oldest : Int) - 1 - r.size + 1 + position + r.capacity =
        (r.oldest + position : Nat) := by
      have hfull := full_of_oldest hturned
      omega
    rw [← Int.add_emod_right, hplace, ← Int.natCast_emod, Int.toNat_natCast]

theorem wheel_get? (r : Ring α) (position : Nat) : r.wheel.get? position = r.get? position := by
  rw [Wheel.get?, get?, wheel_count]
  split
  · next h => rw [wheel_slotOf, wheel_held? (slotOf_lt h)]
  · rfl

/-- The cursor stands at the slot of the last position. -/
theorem wheel_last? (r : Ring α) : r.wheel.last? = r.last? := by
  rw [Wheel.last?, last?, wheel_count]
  split
  · rfl
  · next hsome =>
    have hlast : r.size - 1 < r.size := by omega
    have hcursor : r.wheel.cursor.toNat = r.slotOf (r.size - 1) := by
      have hsize : r.size = r.slots.size := rfl
      have hfull := @full_of_oldest _ r
      have hlt := r.oldest_lt
      rw [slotOf_eq hlast, wheel_cursor]
      split <;> split <;> omega
    rw [hcursor, wheel_held? (slotOf_lt hlast)]

theorem wheel_entries (r : Ring α) : r.wheel.entries = r.toList.map some := by
  have hlength := r.length_toList
  refine List.ext_getElem? fun i => ?_
  rw [Wheel.entries, List.getElem?_map, List.getElem?_map, wheel_count]
  by_cases hi : i < r.size
  · have hheld : r.wheel.held? (r.wheel.slotOf i) = r.toList[i]? := by
      rw [← get?_eq, ← wheel_get?, Wheel.get?, wheel_count, if_pos hi]
    rw [List.getElem?_range hi]
    rw [List.getElem?_eq_getElem (by omega)] at hheld ⊢
    exact congrArg some hheld
  · rw [List.getElem?_eq_none (by simpa using hi), List.getElem?_eq_none (by omega)]
    rfl

theorem wheel_empty (capacity : Nat) (h : 0 < capacity) :
    (empty capacity h : Ring α).wheel = .start capacity := rfl

theorem wheel_clear (r : Ring α) : r.clear.wheel = r.wheel.clear := by
  rw [clear, wheel_empty, Wheel.clear, wheel_capacity]

theorem wheel_set (h : position < r.size) (a : α) :
    (r.set position a).wheel = r.wheel.set position a := by
  have hlength : r.slotOf position < (r.slots.toList.map some).length := by
    simpa using slotOf_lt h
  rw [set, if_pos h, Wheel.set, wheel_slotOf]
  simp only [wheel, size, Array.toList_setIfInBounds, Array.size_setIfInBounds, List.map_set,
    List.set_append_left _ _ hlength]

/-- The slot behind the cursor is free until all slots are in use, and then holds the oldest
entry. -/
theorem wheel_next (r : Ring α) : (r.wheel.cursor + 1) % r.capacity =
    (if r.slots.size < r.capacity then r.slots.size else r.oldest : Nat) := by
  have hsize : r.size = r.slots.size := rfl
  have hlt := r.oldest_lt
  rw [wheel_cursor, Int.sub_add_cancel, ← Int.natCast_emod, Int.natCast_inj]
  by_cases hfree : r.slots.size < r.capacity
  · rw [if_pos hfree, if_pos (r.oldest_eq_zero hfree), hsize, Nat.mod_eq_of_lt hfree]
  · rw [if_neg hfree]
    split
    · next hfirst =>
      have hcap : r.size = r.capacity := Nat.le_antisymm r.size_le (Nat.le_of_not_lt hfree)
      rw [hcap, hfirst, Nat.mod_self]
    · exact Nat.mod_eq_of_lt hlt

theorem wheel_add (r : Ring α) (a : α) : (r.add a).wheel = r.wheel.add a := by
  have hsize : r.size = r.slots.size := rfl
  have hlt := r.oldest_lt
  rw [Wheel.add, wheel_capacity, wheel_count, wheel_next, hsize, Int.toNat_natCast]
  unfold add
  split
  · next hfree =>
    have hfirst := r.oldest_eq_zero hfree
    obtain ⟨n, hn⟩ : ∃ n, r.capacity - r.slots.size = n + 1 :=
      Nat.exists_eq_succ_of_ne_zero (by omega)
    have hrest : r.capacity - (r.slots.size + 1) = n := by omega
    simp only [wheel, size, Array.toList_push, Array.size_push, hfirst, hn, hrest, if_true,
      Wheel.mk.injEq]
    refine ⟨?_, by omega, trivial⟩
    simp [List.replicate_succ]
  · next hfull =>
    have hlength : r.oldest < (r.slots.toList.map some).length := by simp; omega
    -- the oldest entry is now in the next slot, or in the first one behind the last
    have hcursor : (if (r.oldest + 1) % r.capacity = 0 then r.slots.size
        else (r.oldest + 1) % r.capacity : Nat) = r.oldest + 1 := by
      have hle : r.slots.size ≤ r.capacity := r.size_le
      rcases Nat.lt_or_ge (r.oldest + 1) r.capacity with hin | hout
      · rw [Nat.mod_eq_of_lt hin, if_neg (Nat.succ_ne_zero _)]
      · have hlast : r.oldest + 1 = r.capacity := by omega
        rw [hlast, Nat.mod_self, if_pos rfl]
        omega
    simp only [wheel, size, Array.toList_setIfInBounds, Array.size_setIfInBounds, List.map_set,
      List.set_append_left _ _ hlength, Wheel.mk.injEq, true_and, and_true, hcursor]
    omega

theorem wheel_turn (r : Ring Value) (op : Operation) : (op.run r).2.wheel = r.wheel.turn op := by
  cases op with
  | add value => exact wheel_add r value
  | clear => exact wheel_clear r
  | get | last | describe => rfl
  | set position value =>
    rw [Operation.run, Wheel.turn, position?, wheel_count]
    cases position.toInt? with
    | none => rfl
    | some n =>
      by_cases hn : 0 ≤ n ∧ n < r.size
      · have hplace : n.toNat < r.size := by omega
        simp only [hn, and_self, decide_true, Bool.and_self, if_true]
        exact wheel_set hplace value
      · have hout : (decide (0 ≤ n) && decide (n < r.size)) = false := by simpa using hn
        simp only [hout, hn, if_false]
        rfl

/-- Whatever operations are run, the wheel of a ring takes the same turns. -/
theorem wheel_run (r : Ring Value) (ops : List Operation) :
    (runAll Operation.run r ops).2.wheel = ops.foldl Wheel.turn r.wheel := by
  induction ops generalizing r with
  | nil => rfl
  | cons op ops ih => rw [runAll_cons, ih, wheel_turn, List.foldl_cons]

theorem wheel_shows (r : Ring α) : r.wheel.Shows r.toList where
  entries := r.wheel_entries
  item position := (r.wheel_get? position).trans (r.get?_eq position)
  newest := r.wheel_last?.trans r.last?_eq
  count := r.length_toList.symm
  full := by rw [Wheel.isFull, wheel_count, wheel_capacity, r.length_toList, decide_eq_true_iff]

end Ring

end LineShell
