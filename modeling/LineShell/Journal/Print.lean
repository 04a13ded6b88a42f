import LineShell.Journal
import LineShell.Layout.Print
import LineShell.Ring.Operation

/-!
Printing of messages: one by one, and the journal from a position on.
-/

namespace LineShell

/-- A message as it is printed. -/
def Message.print (look : Look) (colorful fancy : Bool) (width : Nat) (m : Message) :
    Except Failure String :=
  Layout.print width (m.shape look colorful fancy)

/-- The messages from a position on as they are printed. No message has a position below zero. -/
def Journal.render (j : Journal) (look : Look) (colorful fancy : Bool) (width : Nat)
    (start : Int) : Except Failure String :=
  if start < 0 then .error (j.ring.outOfRange (.int start))
  else do
    let printed ← (j.messages.drop start.toNat).mapM (Message.print look colorful fancy width)
    return String.join printed

end LineShell
