import LineShell.Line.Scanner

/-!
Attempts: blocks of scanner steps that take effect only if they commit. A block that is left
without having committed puts the cursor back to where the block began, whatever the blocks inside
it did; so does one that is broken off.
-/

namespace LineShell.Line

/-- A step of a scanner. An attempt runs its steps, then commits or does not, and then may break
off, which breaks off the attempts around it too. -/
inductive Step
  | skip
  | name
  | bare
  | string
  | option
  | describe
  | attempt (steps : List Step) (commit breakOff : Bool)

/-- What a step answers. An attempt answers what its steps did, and the cursor they reached. -/
inductive Answer
  | nothing
  | text (s : String)
  | option (o : OptionToken)
  | attempt (answers : List Answer) (cursor : Nat)

/-- The failure that a broken-off attempt ends in. -/
def brokenOff : Failure :=
  ⟨.runtime, "abort"⟩

/-- The answer and the scanner after a read that may fail. -/
def Scanner.answer {α : Type} (s : Scanner) (wrap : α → Answer) :
    Option (α × Scanner) → Answer × Scanner
  | some (a, t) => (wrap a, t)
  | none => (.nothing, s)

mutual

/-- Runs a step. -/
def Step.run : Step → Scanner → Except Failure Answer × Scanner
  | .skip, s => (.ok .nothing, s.skipBlanks)
  | .name, s => let (a, t) := s.answer .text s.name?; (.ok a, t)
  | .bare, s => let (a, t) := s.answer .text s.bare?; (.ok a, t)
  | .string, s => let (a, t) := s.answer .text s.string?; (.ok a, t)
  | .option, s => let (a, t) := s.answer .option s.option?; (.ok a, t)
  | .describe, s => (.ok (.text s.describe), s)
  | .attempt steps commit breakOff, s =>
    match Step.runAll steps s with
    | (.error e, _) => (.error e, s)
    | (.ok answers, t) =>
      let result := if breakOff then .error brokenOff else .ok (.attempt answers t.cursor)
      (result, if commit then t else s)

/-- Runs steps in order, up to the first that breaks off. -/
def Step.runAll : List Step → Scanner → Except Failure (List Answer) × Scanner
  | [], s => (.ok [], s)
  | step :: steps, s =>
    match step.run s with
    | (.error e, t) => (.error e, t)
    | (.ok a, t) =>
      match Step.runAll steps t with
      | (.error e, u) => (.error e, u)
      | (.ok as, u) => (.ok (a :: as), u)

end

end LineShell.Line
