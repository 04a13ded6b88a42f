import LineShell.Message
import LineShell.Ring.View

/-!
The journal of a shell: a ring of messages that also counts how many were ever written. The count
gives every message a serial number, by which later ones can be told from it even when it has gone.
-/

namespace LineShell

/-- The messages that are kept, and the number of those ever written. -/
structure Journal where
  ring : Ring Message
  written : Nat

namespace Journal

/-- A journal without messages. -/
def empty (capacity : Nat) (h : 0 < capacity) : Journal :=
  ⟨Ring.empty capacity h, 0⟩

/-- The journal with another message. -/
def write (j : Journal) (m : Message) : Journal :=
  ⟨j.ring.add m, j.written + 1⟩

/-- Writes a host value as the text of a message, whose other parts are given. -/
def log (j : Journal) (text : Value) (m : Message) : Except Failure Message × Journal :=
  match text.render with
  | .ok text => (.ok { m with text }, j.write { m with text })
  | .error f => (.error f, j)

/-- The journal without its messages; serial numbers go on. -/
def clear (j : Journal) : Journal :=
  { j with ring := j.ring.clear }

/-- The messages that are kept, oldest first. -/
def messages (j : Journal) : List Message :=
  j.ring.toList

/-- The texts that are kept, oldest first. -/
def texts (j : Journal) : List String :=
  j.messages.map (·.text)

/-- The messages that are kept, with their serial numbers. -/
def numbered (j : Journal) : List (Nat × Message) :=
  j.messages.zipIdx.map fun (m, i) => (j.written - j.ring.size + i, m)

/-- The position after the message with a serial number, or the first one if it has gone. -/
def positionAfter (j : Journal) (serial : Nat) : Nat :=
  match j.numbered.findIdx? (·.1 = serial) with
  | some i => i + 1
  | none => 0

/-- The messages written since the count was at a number, as far as they are kept. -/
def since (j : Journal) (written : Nat) : List Message :=
  j.messages.drop (j.ring.size - (j.written - written))

@[simp] theorem written_write (j : Journal) (m : Message) :
    (j.write m).written = j.written + 1 := rfl

/-- A new message comes last; once the ring is full, the oldest one goes. -/
theorem messages_write (j : Journal) (m : Message) :
    (j.write m).messages = (j.messages ++ [m]).drop (j.ring.size + 1 - j.ring.capacity) :=
  Ring.toList_add ..

@[simp] theorem messages_clear (j : Journal) : j.clear.messages = [] := by
  simp [clear, messages]

end Journal

end LineShell
