import LineShell.Ring

/-!
A ring as the list of its entries. Main statements: a position of the ring is that position of the
list, a new entry comes last and takes the place of the first one once the ring is full, and
setting an entry sets it in the list.
-/

namespace LineShell.Ring

variable {α : Type}

theorem oldest_le_size (r : Ring α) : r.oldest ≤ r.slots.size := by
  rcases Nat.lt_or_ge r.slots.size r.capacity with hlt | hge
  · rw [r.oldest_eq_zero hlt]
    exact Nat.zero_le _
  · exact Nat.le_trans (Nat.le_of_lt r.oldest_lt) hge

/-- Positions go round at the end of the slots. -/
theorem slotOf_eq {r : Ring α} {position : Nat} (h : position < r.size) :
    r.slotOf position =
      if r.oldest + position < r.slots.size then r.oldest + position
      else r.oldest + position - r.slots.size := by
  have hsize : r.size = r.slots.size := rfl
  have hle := r.size_le
  have hlt := r.oldest_lt
  unfold slotOf
  rcases Nat.lt_or_ge r.slots.size r.capacity with hfree | hfull
  · rw [r.oldest_eq_zero hfree, Nat.zero_add, Nat.mod_eq_of_lt (by omega), if_pos (by omega)]
  · have hcap : r.slots.size = r.capacity := by omega
    rw [hcap]
    split
    · next hin => exact Nat.mod_eq_of_lt hin
    · next hout =>
      rw [Nat.mod_eq_sub_mod (by omega)]
      exact Nat.mod_eq_of_lt (by omega)

theorem slotOf_lt {r : Ring α} {position : Nat} (h : position < r.size) :
    r.slotOf position < r.slots.size := by
  have hsize : r.size = r.slots.size := rfl
  have := r.oldest_le_size
  rw [slotOf_eq h]
  split <;> omega

/-- The entry at a position is that of the list of all entries. -/
theorem get?_eq (r : Ring α) (position : Nat) : r.get? position = r.toList[position]? := by
  have hsize : r.size = r.slots.size := rfl
  have hold := r.oldest_le_size
  unfold get?
  split
  · next h =>
    rw [slotOf_eq h, toList]
    split
    · next hin =>
      rw [List.getElem?_append_left (by simp; omega), List.getElem?_drop]
      simp
    · next hout =>
      rw [List.getElem?_append_right (by simp; omega), List.getElem?_take_of_lt (by simp; omega)]
      simp only [List.length_drop, Array.length_toList, Array.getElem?_toList]
      congr 1
      omega
  · next h =>
    symm
    rw [List.getElem?_eq_none_iff, length_toList]
    omega

/-- The newest entry is the last one of all entries. -/
theorem last?_eq (r : Ring α) : r.last? = r.toList.getLast? := by
  rw [List.getLast?_eq_getElem?, length_toList, ← get?_eq]
  unfold last? get?
  split
  · next h => simp [h]
  · next h => rw [if_pos (by omega)]

/-- A new entry comes last; a full ring loses its first one. -/
theorem toList_add (r : Ring α) (a : α) :
    (r.add a).toList = (r.toList ++ [a]).drop (r.size + 1 - r.capacity) := by
  have hsize : r.size = r.slots.size := rfl
  have hle := r.size_le
  have hlt := r.oldest_lt
  unfold add
  split
  · next h =>
    have hzero := r.oldest_eq_zero h
    have : r.size + 1 - r.capacity = 0 := by omega
    simp [toList, hzero, this]
  · next h =>
    have hcap : r.slots.size = r.capacity := by omega
    have hdrop : r.size + 1 - r.capacity = 1 := by omega
    have hlen : r.slots.toList.length = r.capacity := by simpa using hcap
    obtain ⟨front, x, back, hsplit, hfront⟩ :
        ∃ front x back, r.slots.toList = front ++ x :: back ∧ front.length = r.oldest := by
      refine ⟨r.slots.toList.take r.oldest, r.slots.toList[r.oldest],
        r.slots.toList.drop (r.oldest + 1), ?_, by simp; omega⟩
      rw [← List.drop_eq_getElem_cons, List.take_append_drop]
    have hset : (r.slots.setIfInBounds r.oldest a).toList = front ++ a :: back := by
      simp [hsplit, ← hfront]
    have hold : r.toList = x :: back ++ front := by
      rw [toList, hsplit, ← hfront, List.drop_left, List.take_left]
    rw [hdrop, hold, toList]
    simp only [hset]
    rcases Nat.lt_or_ge (r.oldest + 1) r.capacity with hin | hout
    · rw [Nat.mod_eq_of_lt hin, ← hfront]
      simp [List.drop_append, List.take_append, List.drop_of_length_le, List.take_of_length_le]
    · have : r.oldest + 1 = r.capacity := by omega
      have hback : back = [] := by
        have := congrArg List.length hsplit
        simp only [hlen, List.length_append, List.length_cons] at this
        exact List.eq_nil_of_length_eq_zero (by omega)
      rw [this, Nat.mod_self, hback]
      simp

/-- Setting the entry at a position sets it among all entries. -/
theorem toList_set (r : Ring α) (position : Nat) (a : α) :
    (r.set position a).toList = r.toList.set position a := by
  have hsize : r.size = r.slots.size := rfl
  have hold := r.oldest_le_size
  unfold set
  split
  · next h =>
    simp only [toList, Array.toList_setIfInBounds]
    rw [slotOf_eq h]
    split
    · next hin =>
      rw [List.take_set_of_le (by omega), List.set_append_left _ _ (by simp; omega), List.drop_set,
        if_neg (by omega), Nat.add_sub_cancel_left]
    · next hout =>
      rw [List.drop_set_of_lt (by omega), List.set_append_right _ _ (by simp; omega), List.take_set]
      congr 2
      simp
      omega
  · next h =>
    rw [List.set_eq_of_length_le (by rw [length_toList]; omega)]

end LineShell.Ring
