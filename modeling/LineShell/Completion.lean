import LineShell.Shell

/-!
Completion of the last word of an input. The candidates are the words that the shell offers,
shorter ones first, and at the end what was typed itself, so that going through them always leads
back to it.
-/

namespace LineShell

/-- The state of a completion: the input up to the word, the word as typed, its candidates and the
position of the current one. -/
structure Completion where
  words : List String
  index : Nat
  fixedPart : String
  partialWord : String
  active : Bool

namespace Completion

/-- No completion has begun. -/
def idle : Completion :=
  ⟨[], 0, "", "", false⟩

/-- The last word of an input, which may be empty. -/
def lastWord (input : List Char) : List Char :=
  (input.reverse.takeWhile (!Text.isBlank ·)).reverse

/-- The input up to its last word. -/
def beforeLastWord (input : List Char) : List Char :=
  input.take (input.length - (lastWord input).length)

/-- Whether a word is not longer than another. -/
def notLonger (a b : String) : Bool :=
  a.length ≤ b.length

/-- The candidates for a word among the words that a shell offers. -/
def candidates (offered : List String) (partialWord : String) : List String :=
  offered.mergeSort notLonger ++
    (if offered.contains partialWord then [] else [partialWord])

/-- The completion with its candidates found anew. -/
def refresh (c : Completion) (s : Shell) : Completion :=
  { c with words := candidates (s.matchingWords c.partialWord) c.partialWord }

/-- Begins to complete an input. -/
def begin (s : Shell) (input : String) : Completion :=
  let partialWord := String.ofList (lastWord input.toList)
  { words := candidates (s.matchingWords partialWord) partialWord
    index := 0
    fixedPart := String.ofList (beforeLastWord input.toList)
    partialWord
    active := true }

/-- The input with the current candidate as its last word; `unset` unless completing. -/
def current (c : Completion) : Except Failure Value :=
  if c.active then
    match c.words[c.index]? with
    | some word => .ok (.text (c.fixedPart ++ word))
    | none => .error ⟨.index, "list index out of range"⟩
  else .ok .unset

/-- The failure of a move before a completion has begun. -/
def notBegun (move : String) : Failure :=
  ⟨.assertion, s!"{move}() requires reset_current_input() first"⟩

/-- The completion at a position, counted around in either direction. -/
def goTo (c : Completion) (position : Int) : Completion :=
  { c with index := (position % (c.words.length : Int)).toNat }

/-- Moves to a position. -/
def moveTo (c : Completion) (position : Int) : Except Failure Completion :=
  if c.active then .ok (c.goTo position) else .error (notBegun "move_to")

/-- Moves some candidates on, or back if the number is negative. -/
def moveBy (c : Completion) (steps : Int) : Except Failure Completion :=
  if c.active then .ok (c.goTo (c.index + steps)) else .error (notBegun "move_match")

/-- Ends the completion; candidates and position stay. -/
def stop (c : Completion) : Completion :=
  { c with active := false }

/-- The candidates on one line. -/
def listing (c : Completion) : String :=
  "    ".intercalate c.words

/-- The completion as diagnostics show it. -/
def describe (c : Completion) : String :=
  let words := Value.quoted (.list (c.words.map .text))
  let matching := Value.quoted (.bool c.active)
  s!"Autocomplete(matches={words}, index={c.index}, matching={matching})"

end Completion

end LineShell
