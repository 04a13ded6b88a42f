import LineShell.Completion
import LineShell.Demo.Commands
import LineShell.Markup.Styled
import LineShell.Shell.Dispatch
import LineShell.Shell.Host

/-!
The demonstration: a shell that is fed lines and prints what each of them adds to its log. A line
that starts with a question mark lists the completions of the rest.
-/

namespace LineShell.Demo

/-- The look of the demonstration. -/
def look : Look :=
  { program := some "conch" }

/-- The width of its output. -/
def width : Nat := 80

/-- What stands before every line of input. -/
def prompt : String := "> "

/-- The shell of the demonstration with no messages yet. -/
def shell (clock : Clock) : Except Failure Shell :=
  Shell.make { fancy := true, clock } [.ready add, .ready greet]

/-- The first position of what was logged after the message with a serial number. -/
def firstNew (s : Shell) (serial : Nat) : Nat :=
  s.context.journal.positionAfter serial

/-- Runs a line: what is printed, and the shell after it. The line itself is logged first, so that
what it adds can be told from older messages. -/
def runLine (s : Shell) (line : String) : Except Failure (String × Shell) := do
  let serial := s.context.journal.written
  let marked := s.mapContext fun c =>
    { c with journal := c.journal.write { text := line, severity := .input } }
  let after := (marked.dispatch line).2
  return (← after.render look width (firstNew after serial), after)

/-- The completions of an input as they are printed. They are read as markup. -/
def completions (s : Shell) (input : String) : Except Failure String := do
  Layout.print width (.text (← Markup.styled (Completion.begin s input).listing.toList))

/-- What a line of input is answered with, and the shell after it. Completions that are no proper
markup are a failure, which ends the demonstration. -/
def answer (s : Shell) (line : String) : Except Failure (String × Shell) :=
  match line.toList with
  | '?' :: input => do return (← completions s (String.ofList input), s)
  | _ => runLine s line

/-- What is printed from the first prompt on. -/
def session (s : Shell) : List String → Except Failure String
  | [] => .ok prompt
  | line :: rest => do
    let (printed, s) ← answer s line
    return prompt ++ printed ++ (← session s rest)

/-- The lines of an input. A line end at its end starts no further line. -/
def inputLines (input : String) : List String :=
  let lines := (Text.splitAt '\n' input.toList).map String.ofList
  if lines.getLast? = some "" then lines.dropLast else lines

/-- All that is printed for an input. -/
def transcript (clock : Clock) (input : String) : Except Failure String := do
  let s ← shell clock
  return s.describe ++ "\n" ++ (← session s (inputLines input))

end LineShell.Demo
