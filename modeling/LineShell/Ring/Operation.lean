import LineShell.Ring
import LineShell.Value

/-!
The operations on a ring of host values. Capacity and positions come from a host too, so they are
checked; truth values count as positions, not as capacities.
-/

namespace LineShell.Ring

/-- The number of slots from which on no memory can hold them. -/
def memoryLimit : Nat := 1 <<< 36

/-- The number of slots that cannot even be counted. -/
def countLimit : Nat := 1 <<< 63

/-- The ring of a capacity given by a host. -/
def ofCapacity {α : Type} : Value → Except Failure (Ring α)
  | .int n =>
    if h : 0 < n.toNat then
      if countLimit ≤ n.toNat then
        .error ⟨.overflow, "cannot fit 'int' into an index-sized integer"⟩
      else if memoryLimit ≤ n.toNat then .error ⟨.memory, ""⟩
      else .ok (empty n.toNat h)
    else .error ⟨.value, "RingBuffer() capacity must be positive"⟩
  | _ => .error ⟨.type, "RingBuffer() capacity must be an integer"⟩

/-- An operation on a ring of host values. -/
inductive Operation
  | add (value : Value)
  | get (position : Value)
  | set (position value : Value)
  | last
  | clear
  | describe

/-- The failure of a position that is not in use. -/
def outOfRange {α : Type} (r : Ring α) (position : Value) : Failure :=
  ⟨.index, s!"trying to index with {position.quoted} on a {r.size}-length buffer"⟩

/-- A position that is in use. -/
def position? {α : Type} (r : Ring α) (position : Value) : Option Nat :=
  match position.toInt? with
  | some n => if 0 ≤ n && n < r.size then some n.toNat else none
  | none => none

/-- The entry at a position given by a host. -/
def item {α : Type} (r : Ring α) (position : Value) : Except Failure α :=
  match (r.position? position).bind r.get? with
  | some a => .ok a
  | none => .error (r.outOfRange position)

/-- The newest entry, which an empty ring does not have. -/
def newest {α : Type} (r : Ring α) : Except Failure α :=
  match r.last? with
  | some a => .ok a
  | none => .error ⟨.index, "last entry of an empty buffer"⟩

/-- The ring as diagnostics show it. -/
def describe (r : Ring Value) : Except Failure String := do
  let entries ← (Value.list r.toList).render
  return s!"RingBuffer({entries}, capacity={r.capacity})"

/-- The answer of an operation and the ring after it. -/
def Operation.run (r : Ring Value) : Operation → Except Failure Value × Ring Value
  | add value => (.ok .none, r.add value)
  | get position => (r.item position, r)
  | set position value =>
    match r.position? position with
    | some n => (.ok .none, r.set n value)
    | none => (.error (r.outOfRange position), r)
  | last => (r.newest, r)
  | clear => (.ok .none, r.clear)
  | describe => (r.describe.map .text, r)

end LineShell.Ring
