import LineShell.Proofs.Ring.Wheel
import Mathlib.Data.List.DropRight

/-! A ring is a queue of bounded size. The queue is stated apart from the ring, on the plain list of
its entries: where the entries are kept, and what happens when the last slot is used, does not
occur in it. -/
namespace LineShell

open LineShell.Ring

variable {capacity : Nat} {q : List Value} {r : Ring Value} {position value : Value}
  {ops : List Operation}

/-- A host value as a position, counted from zero. -/
def Value.toNat? (v : Value) : Option Nat :=
  match v.toInt? with
  | some (.ofNat n) => some n
  | _ => .none

namespace Queue

/-- Puts an entry at the end of a queue. One that gets too long loses its oldest entry. -/
def push {α : Type} (capacity : Nat) (q : List α) (a : α) : List α :=
  let longer := q ++ [a]
  if capacity < longer.length then longer.tail else longer

/-- The failure of a position that a queue does not have. -/
def outside (q : List Value) (position : Value) : Failure :=
  ⟨.index, s!"trying to index with {position.quoted} on a {q.length}-length buffer"⟩

/-- The failure of an empty queue to have a newest entry. -/
def noEntry : Failure := ⟨.index, "last entry of an empty buffer"⟩

/-- The entry at a position. -/
def entry (q : List Value) (position : Value) : Except Failure Value :=
  match position.toNat?.bind (q[·]?) with
  | some a => .ok a
  | none => .error (outside q position)

/-- The newest entry. -/
def newest (q : List Value) : Except Failure Value :=
  match q.getLast? with
  | some a => .ok a
  | none => .error noEntry

/-- The answer of an operation and the queue after it. -/
def run (capacity : Nat) (q : List Value) : Operation → Except Failure Value × List Value
  | .add value => (.ok .none, push capacity q value)
  | .get position => (entry q position, q)
  | .set position value =>
    match position.toNat?.filter (· < q.length) with
    | some i => (.ok .none, q.set i value)
    | none => (.error (outside q position), q)
  | .last => (newest q, q)
  | .clear => (.ok .none, [])
  | .describe => ((Value.list q).render.map fun entries =>
      .text s!"RingBuffer({entries}, capacity={capacity})", q)

end Queue

namespace Ring

/-- Whether an operation empties the ring. -/
def Operation.isClear : Operation → Bool
  | .clear => true
  | _ => false

/-- Whether an operation puts an entry in the place of another one. -/
def Operation.isSet : Operation → Bool
  | .set .. => true
  | _ => false

/-- The entry that an operation adds. -/
def Operation.added? : Operation → Option Value
  | .add value => some value
  | _ => none

/-- The operations since the ring was last emptied. -/
def sinceClear (ops : List Operation) : List Operation :=
  ops.rtakeWhile (!·.isClear)

/-- The entries added since the ring was last emptied. -/
def added (ops : List Operation) : List Value :=
  (sinceClear ops).filterMap Operation.added?

/-- A ring holds the entries of a queue, in their order, and has its capacity. -/
structure Holds (capacity : Nat) (r : Ring Value) (q : List Value) : Prop where
  entries : r.toList = q
  capacity : r.capacity = capacity

theorem Holds.size (h : r.Holds capacity q) : r.size = q.length := by
  rw [← h.entries, length_toList]

theorem Holds.outside (h : r.Holds capacity q) (position : Value) :
    r.outOfRange position = Queue.outside q position := by
  rw [outOfRange, Queue.outside, h.size]

theorem position?_eq (r : Ring Value) (position : Value) :
    r.position? position = position.toNat?.filter (· < r.size) := by
  unfold position? Value.toNat?
  split
  · next n hn =>
    cases n with
    | ofNat n => by_cases hlt : n < r.size <;> simp [hn, hlt, Option.filter]
    | negSucc n => simp [hn]
  · next hn => simp [hn]

theorem Holds.item (h : r.Holds capacity q) (position : Value) :
    r.item position = Queue.entry q position := by
  have hentry : (r.position? position).bind r.get? = position.toNat?.bind (q[·]?) := by
    rw [position?_eq, h.size]
    cases position.toNat? with
    | none => rfl
    | some i =>
      by_cases hlt : i < q.length
      · simp [Option.filter, hlt, get?_eq, h.entries]
      · simp [Option.filter, hlt]
  rw [Ring.item, Queue.entry, hentry, h.outside]
  cases position.toNat?.bind (q[·]?) <;> rfl

theorem Holds.newest (h : r.Holds capacity q) : r.newest = Queue.newest q := by
  rw [Ring.newest, Queue.newest, last?_eq, h.entries]
  cases q.getLast? <;> rfl

theorem Holds.add (h : r.Holds capacity q) (value : Value) :
    (r.add value).Holds capacity (Queue.push capacity q value) := by
  have hsize := h.size
  have hle : r.size ≤ r.capacity := r.size_le
  refine ⟨?_, (capacity_add r value).trans h.capacity⟩
  rw [toList_add, h.entries, h.capacity, hsize, Queue.push, List.length_append,
    List.length_singleton]
  rw [hsize, h.capacity] at hle
  split
  · next hlong =>
    have hone : q.length + 1 - capacity = 1 := by omega
    rw [hone, List.drop_one]
  · next hfits =>
    have hzero : q.length + 1 - capacity = 0 := by omega
    rw [hzero, List.drop_zero]

theorem Holds.set (h : r.Holds capacity q) (i : Nat) (value : Value) :
    (r.set i value).Holds capacity (q.set i value) := by
  refine ⟨by rw [toList_set, h.entries], ?_⟩
  unfold Ring.set
  split <;> exact h.capacity

/-- Every operation answers as the queue does, and keeps what the ring holds. -/
theorem Holds.run (h : r.Holds capacity q) (op : Operation) :
    (op.run r).1 = (Queue.run capacity q op).1 ∧
      (op.run r).2.Holds capacity (Queue.run capacity q op).2 := by
  cases op with
  | add value => exact ⟨rfl, h.add value⟩
  | get position => exact ⟨h.item position, h⟩
  | set position value =>
    rw [Operation.run, Queue.run, position?_eq, h.size, h.outside]
    cases position.toNat?.filter (· < q.length) with
    | none => exact ⟨rfl, h⟩
    | some i => exact ⟨rfl, h.set i value⟩
  | last => exact ⟨h.newest, h⟩
  | clear => exact ⟨rfl, toList_clear r, h.capacity⟩
  | describe =>
    refine ⟨?_, h⟩
    simp only [Operation.run, Queue.run, describe, h.entries, h.capacity]
    cases (Value.list q).render <;> rfl

/-- What a host sees of a ring is what it would see of a queue. A position that the queue does not
have is refused, and the ring stays as it is. -/
structure Shows (r : Ring Value) (q : List Value) : Prop where
  entries : r.toList = q
  size : r.size = q.length
  bounded : q.length ≤ r.capacity
  full : r.isFull = true ↔ q.length = r.capacity
  inside : ∀ position (i : Nat) (h : i < q.length), position.toInt? = some (i : Int) →
    (Operation.get position).run r = (.ok q[i], r)
  outside : ∀ position, (∀ i < q.length, position.toInt? ≠ some (i : Int)) →
    ∃ failure : Failure, failure.kind = .index ∧
      (Operation.get position).run r = (.error failure, r) ∧
      ∀ value, (Operation.set position value).run r = (.error failure, r)
  newest : ∀ h : q ≠ [], Operation.last.run r = (.ok (q.getLast h), r)
  nothing : q = [] → ∃ failure : Failure, failure.kind = .index ∧
    Operation.last.run r = (.error failure, r)

theorem toNat?_eq_some {n : Nat} :
    position.toNat? = some n ↔ position.toInt? = some (n : Int) := by
  unfold Value.toNat?
  split
  · next m hm =>
    rw [hm, Option.some.injEq, Option.some.injEq, Int.ofNat_eq_natCast, Int.natCast_inj]
  · next hm => simpa using hm n

theorem Holds.shows (h : r.Holds capacity q) : r.Shows q where
  entries := h.entries
  size := h.size
  bounded := h.size ▸ r.size_le
  full := by rw [isFull, h.size, decide_eq_true_iff]
  inside := by
    intro position i hlt hi
    have hentry : position.toNat?.bind (q[·]?) = some q[i] := by
      rw [toNat?_eq_some.mpr hi]
      exact List.getElem?_eq_getElem hlt
    rw [Operation.run, h.item, Queue.entry, hentry]
  outside := by
    intro position hout
    have hnone : position.toNat?.filter (· < q.length) = none := by
      rw [Option.filter_eq_none_iff]
      intro i hi
      simpa using fun hlt : i < q.length => hout i hlt (toNat?_eq_some.mp hi)
    have hrefused : r.position? position = none := by rw [position?_eq, h.size, hnone]
    refine ⟨r.outOfRange position, rfl, ?_, ?_⟩
    · rw [Operation.run, Ring.item, hrefused]
      rfl
    · intro value
      rw [Operation.run, hrefused]
  newest := by
    intro hne
    rw [Operation.run, h.newest, Queue.newest, List.getLast?_eq_some_getLast hne]
  nothing := by
    rintro rfl
    exact ⟨Queue.noEntry, rfl, Prod.ext h.newest rfl⟩

theorem push_rtake {α : Type} (capacity : Nat) (entries : List α) (a : α) :
    Queue.push capacity (entries.rtake capacity) a = (entries ++ [a]).rtake capacity := by
  unfold Queue.push List.rtake
  by_cases hfull : capacity ≤ entries.length
  · have hlong : capacity < (entries.drop (entries.length - capacity) ++ [a]).length := by
      simp only [List.length_append, List.length_drop, List.length_singleton]
      omega
    rw [if_pos hlong, ← List.drop_append_of_le_length (Nat.sub_le ..), List.tail_drop]
    congr 1
    simp only [List.length_append, List.length_singleton]
    omega
  · have hnone : entries.length - capacity = 0 := by omega
    have hshort : (entries ++ [a]).length - capacity = 0 := by
      simp only [List.length_append, List.length_singleton]
      omega
    rw [hnone, hshort, List.drop_zero, List.drop_zero, if_neg (by omega)]

theorem rtake_min {α : Type} (entries : List α) (n : Nat) :
    entries.rtake (min entries.length n) = entries.rtake n := by
  unfold List.rtake
  congr 1
  omega

theorem sinceClear_concat (ops : List Operation) (op : Operation) :
    sinceClear (ops ++ [op]) = if op.isClear then [] else sinceClear ops ++ [op] := by
  unfold sinceClear
  rw [List.rtakeWhile_concat]
  cases op.isClear <;> rfl

theorem added_concat (ops : List Operation) (op : Operation) :
    added (ops ++ [op]) = if op.isClear then [] else added ops ++ op.added?.toList := by
  unfold added
  rw [sinceClear_concat]
  split
  · rfl
  · rw [List.filterMap_append]
    cases op <;> rfl

/-- Additions to an empty queue leave the newest entries, as many as it has room for. -/
theorem queue_added (capacity : Nat) (hset : ∀ op ∈ sinceClear ops, op.isSet = false) :
    (runAll (Queue.run capacity) [] ops).2 = (added ops).rtake capacity := by
  induction ops using List.reverseRecOn with
  | nil => simp [runAll, added, sinceClear]
  | append_singleton ops op ih =>
    rw [runAll_concat, added_concat]
    rw [sinceClear_concat] at hset
    cases op with
    | clear => exact (List.rtake_nil _).symm
    | add value =>
      rw [ih (List.forall_mem_append.mp hset).1]
      exact push_rtake capacity (added ops) value
    | set position value => cases (List.forall_mem_append.mp hset).2 _ (List.mem_singleton_self _)
    | get | last | describe =>
      rw [ih (List.forall_mem_append.mp hset).1]
      exact congrArg (List.rtake · capacity) (List.append_nil _).symm

/-- A ring answers every run of operations as a queue of its capacity does, and shows after each run
what that queue shows. So does the wheel whose cursor the operations turn: by position, as its newest
entry and in a run through it, the entries are those of the queue. Where no entry was put in the
place of another since the ring was last emptied, these are the newest of the entries added since, as
many as there is room for. -/
theorem answers_as_queue (hcapacity : 0 < capacity) (ops : List Operation) :
    ∃ answers r q, runAll Operation.run (empty capacity hcapacity) ops = (answers, r) ∧
      runAll (Queue.run capacity) [] ops = (answers, q) ∧ r.capacity = capacity ∧ r.Shows q ∧
      ops.foldl Wheel.turn (.start capacity) = r.wheel ∧ r.wheel.Shows q ∧
      ((∀ op ∈ sinceClear ops, op.isSet = false) →
        q = (added ops).rtake (min (added ops).length capacity)) := by
  have hstart : (empty capacity hcapacity : Ring Value).Holds capacity [] := ⟨rfl, rfl⟩
  obtain ⟨hanswers, hend⟩ := runAll_alike (fun _ _ op h => h.run op) hstart ops
  refine ⟨_, _, _, rfl, Prod.ext hanswers.symm rfl, hend.capacity, hend.shows, ?_, ?_,
    fun hset => ?_⟩
  · rw [wheel_run, wheel_empty]
  · have hshows := wheel_shows (runAll Operation.run (empty capacity hcapacity) ops).2
    rwa [hend.entries] at hshows
  · exact (queue_added capacity hset).trans (rtake_min ..).symm

/-- In a ring for two entries the third one takes the place of the first one, in the first slot. -/
theorem answers_as_queue_wrapped : 0 < 2 ∧ ∃ answers r,
    runAll Operation.run (empty 2 (by decide))
      [.add (.int 1), .add (.int 2), .add (.int 3), .get (.int 2), .last] = (answers, r) ∧
    answers = [.ok .none, .ok .none, .ok .none,
      .error ⟨.index, "trying to index with 2 on a 2-length buffer"⟩, .ok (.int 3)] ∧
    r.toList = [.int 2, .int 3] ∧ r.wheel.cursor = 0 := by
  obtain ⟨answers, r, q, hring, hqueue, _, hshows, hwheel, _, hadded⟩ :=
    answers_as_queue (by decide : 0 < 2)
      [.add (.int 1), .add (.int 2), .add (.int 3), .get (.int 2), .last]
  refine ⟨by decide, answers, r, hring, ?_, ?_, ?_⟩
  · exact (congrArg Prod.fst hqueue).symm
  · rw [hshows.entries, hadded (by decide)]
    rfl
  · rw [← hwheel]
    rfl

end Ring

end LineShell
