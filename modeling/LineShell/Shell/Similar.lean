/-!
How alike two names are: twice the number of characters in matching blocks over the number of all
characters. Blocks are found by taking the longest common run, then looking on both sides of it.
-/

namespace LineShell.Similar

/-- From how many characters on a word's most frequent characters are passed over. -/
def crowdedLength : Nat := 200

/-- Whether a character is too frequent in a word to start a match. -/
def isCrowded (word : List Char) (c : Char) : Bool :=
  crowdedLength ≤ word.length && word.length / 100 + 1 < word.count c

/-- A common run of two texts: where it starts in each, and its length. -/
structure Run where
  left : Nat
  right : Nat
  size : Nat
deriving DecidableEq

/-- The lengths of the common runs that end at each position of a row, from those of the row
before. -/
def nextRow (word : Array Char) (low high : Nat) (c : Char) (row : Array Nat) : Array Nat :=
  Array.ofFn fun j : Fin word.size =>
    if low ≤ j && j < high && word[j] = c then
      (if low < j then row[j.val - 1]?.getD 0 else 0) + 1
    else 0

/-- The better of two runs: a later one only if it is longer. -/
def better (best run : Run) : Run :=
  if best.size < run.size then run else best

/-- The longest run of a row that beats the best one so far. -/
def bestOfRow (i : Nat) (row : Array Nat) (best : Run) : Run :=
  row.toList.zipIdx.foldl
    (fun best (size, j) => better best ⟨i + 1 - size, j + 1 - size, size⟩) best

/-- The longest common run between two ranges of positions, the first of those equally long. -/
def longest (name word : Array Char) (crowded : Char → Bool) (i i' j j' : Nat) : Run :=
  let step := fun (state : Array Nat × Run) (offset : Nat) =>
    match name[i + offset]? with
    | some c =>
      let row :=
        if crowded c then Array.replicate word.size 0 else nextRow word j j' c state.1
      (row, bestOfRow (i + offset) row state.2)
    | none => state
  ((List.range (i' - i)).foldl step (Array.replicate word.size 0, ⟨i, j, 0⟩)).2

/-- How far two texts agree backwards from two positions, within ranges. -/
def agreeBefore (name word : Array Char) (i j : Nat) (a b : Nat) : Nat :=
  match a, b with
  | a + 1, b + 1 =>
    if i ≤ a && j ≤ b && name[a]? = word[b]? then agreeBefore name word i j a b + 1 else 0
  | _, _ => 0

/-- How far two texts agree from two positions on, for at most some characters. -/
def agreeAfter (name word : Array Char) (i' j' a b : Nat) : Nat → Nat
  | 0 => 0
  | fuel + 1 =>
    if a < i' && b < j' && name[a]? = word[b]? then
      agreeAfter name word i' j' (a + 1) (b + 1) fuel + 1
    else 0

/-- A run made longer on both sides by characters that agree. -/
def stretch (name word : Array Char) (i i' j j' : Nat) (run : Run) : Run :=
  let before := agreeBefore name word i j run.left run.right
  let after :=
    agreeAfter name word i' j' (run.left + run.size) (run.right + run.size) (i' - i)
  ⟨run.left - before, run.right - before, run.size + before + after⟩

/-- The number of characters in matching blocks between two ranges of positions; each block leaves
fewer characters on either side, so `fuel` of one more than the characters of a name is enough. -/
def matchedBetween (name word : Array Char) (crowded : Char → Bool) :
    Nat → Nat → Nat → Nat → Nat → Nat
  | 0, _, _, _, _ => 0
  | fuel + 1, i, i', j, j' =>
    let run := stretch name word i i' j j' (longest name word crowded i i' j j')
    if run.size = 0 then 0
    else
      run.size + matchedBetween name word crowded fuel i run.left j run.right +
        matchedBetween name word crowded fuel (run.left + run.size) i' (run.right + run.size) j'

/-- The number of characters in matching blocks of a name and a word. -/
def matched (name word : List Char) : Nat :=
  matchedBetween name.toArray word.toArray (isCrowded word) (name.length + 1) 0 name.length 0
    word.length

/-- A likeness: matching characters and all characters. -/
structure Likeness where
  matching : Nat
  total : Nat

/-- The likeness of a name and a word. -/
def likeness (name word : List Char) : Likeness :=
  ⟨matched name word, name.length + word.length⟩

/-- Whether a likeness is at least three fifths. -/
def Likeness.isClose (l : Likeness) : Bool :=
  3 * l.total ≤ 10 * l.matching

/-- Whether one likeness is less than another. -/
def Likeness.lt (l m : Likeness) : Bool :=
  l.matching * m.total < m.matching * l.total

/-- The better of two candidates: the one more alike, or the one later in the alphabet. -/
def preferred (best : String × Likeness) (other : String × Likeness) : String × Likeness :=
  if best.2.lt other.2 || (!other.2.lt best.2 && best.1 < other.1) then other else best

/-- The name most like a word, among those that are close to it. -/
def closest? (word : String) (names : List String) : Option String :=
  let close := (names.map fun name => (name, likeness name.toList word.toList)).filter
    (·.2.isClose)
  match close with
  | [] => none
  | first :: rest => some (rest.foldl preferred first).1

end LineShell.Similar
