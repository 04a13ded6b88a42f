import LineShell.Demo.Transcript

/-!
The demonstration on a terminal: lines are read until the input ends, and each is answered at once.
-/

namespace LineShell.Demo

/-- Answers lines until the input ends or an answer fails. -/
partial def serve (input output : IO.FS.Stream) (s : Shell) : IO (Option Failure) := do
  output.putStr prompt
  output.flush
  let line ← input.getLine
  if line.isEmpty then return none
  match answer s (String.ofList (line.toList.takeWhile (· ≠ '\n'))) with
  | .ok (printed, s) =>
    output.putStr printed
    serve input output s
  | .error f => return some f

/-- Runs the demonstration: the failure that ended it, if one did. -/
def run (input output : IO.FS.Stream) : IO (Option Failure) := do
  match shell ⟨0.001, 0⟩ with
  | .ok s =>
    output.putStrLn s.describe
    serve input output s
  | .error f => return some f

end LineShell.Demo

def main : IO UInt32 := do
  match ← LineShell.Demo.run (← IO.getStdin) (← IO.getStdout) with
  | none => return 0
  | some f =>
    IO.eprintln f.line
    return 1
