import LineShell.Line.Attempt

/-! Reads as attempts. A token is read by blocks that move the cursor on and go back unless they
committed, and what comes after the name of an option is found out by a block that never commits.
Main statement: what such blocks answer, and where they leave the cursor, is what the readers of the
scanner say. -/
namespace LineShell.Line

open LineShell.Text

variable {α : Type} {s : Scanner}

/-- How a block ends: with a result, having committed or not, and with the scanner it reached. -/
structure Exit (α : Type) where
  result : α
  committed : Bool
  reached : Scanner

/-- Runs a block. Unless it committed, the cursor goes back to where the block was entered. -/
def checkpoint (block : Scanner → Exit α) (s : Scanner) : α × Scanner :=
  ((block s).result, if (block s).committed then (block s).reached else s)

namespace Scanner

/-- What was read, if anything, and the scanner that is left: nothing read, nothing moved. -/
def settle (s : Scanner) (read : Option (α × Scanner)) : Option α × Scanner :=
  (read.map (·.1), (read.map (·.2)).getD s)

/-- The block that reads a run without white space. It commits if the cursor moved. -/
def runBlock (s : Scanner) : Exit (Option String) :=
  let run := s.rest.takeWhile (!isBlank ·)
  let t := s.advance run.length
  if t.cursor = s.cursor then ⟨none, false, t⟩ else ⟨some (String.ofList run), true, t⟩

/-- The block that reads a text between quotes. It commits if there is a closing one. -/
def quotedBlock (s : Scanner) : Exit (Option String) :=
  let tail := s.rest.drop 1
  let body := tail.takeWhile (· ≠ '"')
  if body.length < tail.length then
    ⟨some (String.ofList body), true, s.advance (body.length + 2)⟩
  else ⟨none, false, s⟩

/-- Reads a command name by blocks. -/
def takeName (s : Scanner) : Option String × Scanner :=
  if s.rest.head? = some '"' then checkpoint quotedBlock s else checkpoint runBlock s

/-- Reads an argument or the value of an option by blocks. -/
def takeString (s : Scanner) : Option String × Scanner :=
  if s.isEmpty || atOption s.rest then (none, s) else s.takeName

/-- The block that looks for an equals sign across white space. It never commits. -/
def assignmentBlock (s : Scanner) : Exit Bool :=
  ⟨s.skipBlanks.rest.head? = some '=', false, s.skipBlanks⟩

/-- The block that reads an option. It commits if the option is complete. -/
def optionBlock (s : Scanner) : Exit (Option OptionToken) :=
  let t := s.advance 1
  let name := t.rest.takeWhile isOptionNameChar
  let u := t.advance name.length
  if !name.head?.any isLetter then ⟨none, false, u⟩
  else match checkpoint assignmentBlock u with
    | (false, v) => ⟨some ⟨String.ofList name, none⟩, true, v⟩
    | (true, v) =>
      match (v.skipBlanks.advance 1).skipBlanks.takeString with
      | (none, w) => ⟨none, false, w⟩
      | (some value, w) => ⟨some ⟨String.ofList name, some value⟩, true, w⟩

/-- Reads an option by blocks. -/
def takeOption (s : Scanner) : Option OptionToken × Scanner :=
  if s.rest.head? = some '-' then checkpoint optionBlock s else (none, s)

theorem advance_advance (s : Scanner) (m n : Nat) :
    (s.advance m).advance n = s.advance (m + n) := by
  simp only [advance, mk.injEq, true_and]
  omega

theorem advance_zero (s : Scanner) : s.advance 0 = s := by
  have hcursor : min (s.cursor + 0) s.source.length = s.cursor := Nat.min_eq_left s.cursor_le
  simp only [advance, hcursor]

/-- A block that commits exactly if it reads something. -/
inductive Reads : Exit (Option α) → Option (α × Scanner) → Prop
  | failed (t : Scanner) : Reads ⟨none, false, t⟩ none
  | succeeded (a : α) (t : Scanner) : Reads ⟨some a, true, t⟩ (some (a, t))

theorem checkpoint_eq_settle {block : Scanner → Exit (Option α)} {read : Option (α × Scanner)}
    (h : Reads (block s) read) : checkpoint block s = s.settle read := by
  rw [checkpoint]
  generalize block s = e at h ⊢
  cases h <;> rfl

theorem reads_runBlock (s : Scanner) : Reads (runBlock s) s.bare? := by
  have hcursor : (s.advance (s.rest.takeWhile (!isBlank ·)).length).cursor =
      s.cursor + (s.rest.takeWhile (!isBlank ·)).length :=
    advance_cursor (List.takeWhile_prefix _).length_le
  rw [runBlock, bare?, readBare?, hcursor]
  cases s.rest.takeWhile (!isBlank ·) with
  | nil =>
    rw [if_pos (by simp)]
    exact Reads.failed _
  | cons c run =>
    rw [if_neg (by simp)]
    exact Reads.succeeded _ _

theorem reads_quotedBlock (h : s.rest.head? = some '"') :
    Reads (quotedBlock s) ((readQuoted? s.rest).map s.accept) := by
  obtain ⟨tail, htail⟩ := List.head?_eq_some_iff.mp h
  rw [quotedBlock, htail, List.drop_one, List.tail_cons, readQuoted?]
  by_cases hclosed : (tail.takeWhile (· ≠ '"')).length < tail.length
  · rw [if_pos hclosed, if_pos hclosed]
    have hlength (body : List Char) : (Lexeme.quoted body).spelling.length = body.length + 2 := by
      simp [Lexeme.spelling]
    rw [Option.map_some, accept, hlength]
    exact Reads.succeeded _ _
  · rw [if_neg hclosed, if_neg hclosed]
    exact Reads.failed _

theorem takeName_eq (s : Scanner) : s.takeName = s.settle s.name? := by
  rw [takeName, name?, readName?]
  split
  next hquote => exact checkpoint_eq_settle (reads_quotedBlock hquote)
  next => exact checkpoint_eq_settle (reads_runBlock s)

theorem takeString_eq (s : Scanner) : s.takeString = s.settle s.string? := by
  rw [takeString, string?, readString?, takeName_eq, name?]
  cases hoption : atOption s.rest with
  | true => simp [settle]
  | false =>
    cases hempty : s.isEmpty with
    | false => rfl
    | true =>
      have hrest : s.rest = [] := List.drop_eq_nil_of_le (by simpa [isEmpty] using hempty)
      rw [hrest]
      rfl

/-- Looking for an equals sign moves nothing. -/
theorem checkpoint_assignmentBlock (s : Scanner) :
    checkpoint assignmentBlock s = (decide (s.skipBlanks.rest.head? = some '='), s) := rfl

/-- Past the equals sign and the white space around it. -/
theorem skipAssignment_eq {tail : List Char} (h : s.rest.dropWhile isBlank = '=' :: tail) :
    (s.skipBlanks.advance 1).skipBlanks =
        s.advance ((s.rest.takeWhile isBlank).length + 1 + (tail.takeWhile isBlank).length) ∧
      (s.skipBlanks.advance 1).skipBlanks.rest = tail.dropWhile isBlank := by
  have hrest : (s.skipBlanks.advance 1).rest = tail :=
    advance_rest (show s.skipBlanks.rest = ['='] ++ tail from (skipBlanks_rest s).trans h)
  constructor
  · rw [skipBlanks, hrest, skipBlanks, advance_advance, advance_advance, Nat.add_assoc]
  · rw [skipBlanks_rest, hrest]

theorem advance_flag (s : Scanner) (name : List Char) :
    s.advance (OptionLexeme.mk name none).spelling.length = (s.advance 1).advance name.length := by
  rw [advance_advance, Nat.add_comm]
  simp [OptionLexeme.spelling]

theorem advance_assigned (s : Scanner) (name before after : List Char) (value : Lexeme) :
    s.advance (OptionLexeme.mk name (some ⟨before, after, value⟩)).spelling.length =
      (((s.advance 1).advance name.length).advance (before.length + 1 + after.length)).advance
        value.spelling.length := by
  rw [advance_advance, advance_advance, advance_advance]
  simp only [OptionLexeme.spelling, Assignment.spelling, Option.map_some, Option.getD_some,
    List.length_append, List.length_cons]
  congr 1
  omega

/-- Past the hyphen, and past the name of an option. -/
theorem rest_pastName {tail : List Char} (h : s.rest = '-' :: tail) :
    (s.advance 1).rest = tail ∧
      ((s.advance 1).advance (tail.takeWhile isOptionNameChar).length).rest =
        tail.dropWhile isOptionNameChar := by
  have hrest : (s.advance 1).rest = tail := advance_rest (show s.rest = ['-'] ++ tail from h)
  refine ⟨hrest, advance_rest ?_⟩
  rw [hrest]
  exact eq_takeWhile_append _ _

theorem reads_optionBlock (h : s.rest.head? = some '-') : Reads (optionBlock s) s.option? := by
  obtain ⟨tail, htail⟩ := List.head?_eq_some_iff.mp h
  obtain ⟨hrest, hu⟩ := rest_pastName htail
  rw [optionBlock, option?, htail, readOption?, hrest]
  generalize tail.takeWhile isOptionNameChar = name at hu ⊢
  generalize tail.dropWhile isOptionNameChar = after at hu ⊢
  generalize hend : (s.advance 1).advance name.length = u at hu ⊢
  rw [checkpoint_assignmentBlock, skipBlanks_rest, hu]
  by_cases hletter : (!name.head?.any isLetter) = true
  · rw [if_pos hletter, if_pos hletter]
    exact Reads.failed _
  rw [if_neg hletter, if_neg hletter]
  -- The reader looks for the equals sign in the text, the block at the cursor that it moved.
  by_cases hassign : ∃ rest, after.dropWhile isBlank = '=' :: rest
  · obtain ⟨rest, hassign⟩ := hassign
    obtain ⟨hskip, hvalue⟩ := skipAssignment_eq (hu.symm ▸ hassign)
    simp only [hassign, List.head?_cons, decide_true, takeString_eq, string?, hvalue]
    cases readString? (rest.dropWhile isBlank) with
    | none => exact Reads.failed _
    | some value =>
      rw [Option.map_some, Option.map_some, Option.map_some, hskip, hu, ← hend, advance_assigned]
      exact Reads.succeeded _ _
  · have hhead : (after.dropWhile isBlank).head? ≠ some '=' := fun h =>
      hassign (List.head?_eq_some_iff.mp h)
    rw [decide_eq_false hhead]
    simp only
    split
    next rest hassigned => exact absurd ⟨rest, hassigned⟩ hassign
    next =>
      rw [Option.map_some, ← hend, advance_flag]
      exact Reads.succeeded _ _

theorem takeOption_eq (s : Scanner) : s.takeOption = s.settle s.option? := by
  rw [takeOption]
  split
  next hhyphen => exact checkpoint_eq_settle (reads_optionBlock hhyphen)
  next hhyphen =>
    have hnone : readOption? s.rest = none := by
      rw [readOption?.eq_def]
      split
      next htail => exact absurd (htail ▸ rfl) hhyphen
      next => rfl
    rw [option?, hnone]
    rfl

end Scanner

/-- The answer of a read and the scanner after it. -/
def told (wrap : α → Answer) (read : Option α × Scanner) : Except Failure Answer × Scanner :=
  (.ok (read.1.elim .nothing wrap), read.2)

/-- How the block of an attempt ends after its steps. Once one of them broke off, it can neither
commit nor break off by itself. -/
def close (commit breakOff : Bool) :
    Except Failure (List Answer) × Scanner → Exit (Except Failure Answer)
  | (.error e, t) => ⟨.error e, false, t⟩
  | (.ok answers, t) =>
    ⟨if breakOff then .error brokenOff else .ok (.attempt answers t.cursor), commit, t⟩

mutual

/-- Runs a step by blocks: tokens open blocks of their own inside those of the attempts. -/
def Step.runBlocks : Step → Scanner → Except Failure Answer × Scanner
  | .skip, s => (.ok .nothing, s.skipBlanks)
  | .name, s => told .text s.takeName
  | .bare, s => told .text (checkpoint Scanner.runBlock s)
  | .string, s => told .text s.takeString
  | .option, s => told .option s.takeOption
  | .describe, s => (.ok (.text s.describe), s)
  | .attempt steps commit breakOff, s =>
    checkpoint (fun s => close commit breakOff (Step.runAllBlocks steps s)) s

/-- Runs steps by blocks, up to the first that breaks off. -/
def Step.runAllBlocks : List Step → Scanner → Except Failure (List Answer) × Scanner
  | [], s => (.ok [], s)
  | step :: steps, s =>
    match step.runBlocks s with
    | (.error e, t) => (.error e, t)
    | (.ok a, t) =>
      match Step.runAllBlocks steps t with
      | (.error e, u) => (.error e, u)
      | (.ok as, u) => (.ok (a :: as), u)

end

theorem told_settle (wrap : α → Answer) (s : Scanner) (read : Option (α × Scanner)) :
    told wrap (s.settle read) = (.ok (s.answer wrap read).1, (s.answer wrap read).2) := by
  cases read <;> rfl

mutual

/-- Running a step by blocks is running it. -/
theorem runBlocks_eq (step : Step) (s : Scanner) : step.runBlocks s = step.run s := by
  cases step with
  | skip => rfl
  | describe => rfl
  | name => rw [Step.runBlocks, s.takeName_eq, told_settle, Step.run]
  | bare =>
    rw [Step.runBlocks, Scanner.checkpoint_eq_settle s.reads_runBlock, told_settle, Step.run]
  | string => rw [Step.runBlocks, s.takeString_eq, told_settle, Step.run]
  | option => rw [Step.runBlocks, s.takeOption_eq, told_settle, Step.run]
  | attempt steps commit breakOff =>
    rw [Step.runBlocks, checkpoint, runAllBlocks_eq steps s, Step.run]
    rcases Step.runAll steps s with ⟨result, t⟩
    cases result <;> rfl

theorem runAllBlocks_eq (steps : List Step) (s : Scanner) :
    Step.runAllBlocks steps s = Step.runAll steps s := by
  cases steps with
  | nil => rfl
  | cons step steps =>
    rw [Step.runAllBlocks, runBlocks_eq step s, Step.runAll]
    rcases step.run s with ⟨result, t⟩
    cases result with
    | error e => rfl
    | ok a =>
      have hsteps := runAllBlocks_eq steps t
      rcases hrest : Step.runAll steps t with ⟨rest, u⟩
      rw [hrest] at hsteps
      cases rest <;> simp only [hsteps, hrest]

end

end LineShell.Line
