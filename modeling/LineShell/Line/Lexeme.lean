import LineShell.Text.Blank
import LineShell.Text.Letter

/-!
The lexemes of a command line and their spelling. A string is a run without white space or a text
between double quotes; an option is a hyphen, a name that starts with a letter and, after an equals
sign, perhaps a value. Main statement: what is read is spelled at the front of the text.
-/

namespace LineShell.Line

open LineShell.Text

/-- A string as a line spells it. -/
inductive Lexeme
  | bare (text : List Char)
  | quoted (text : List Char)
deriving DecidableEq

/-- The text that a lexeme stands for. -/
def Lexeme.text : Lexeme → List Char
  | bare t => t
  | quoted t => t

/-- The characters of the line that make up a lexeme. -/
def Lexeme.spelling : Lexeme → List Char
  | bare t => t
  | quoted t => '"' :: t ++ ['"']

/-- The longest run without white space, if it is not empty. -/
def readBare? (cs : List Char) : Option Lexeme :=
  let run := cs.takeWhile (!isBlank ·)
  if run.isEmpty then none else some (.bare run)

/-- The text up to the closing quote; there are no escapes. -/
def readQuoted? : List Char → Option Lexeme
  | '"' :: rest =>
    let body := rest.takeWhile (· ≠ '"')
    if body.length < rest.length then some (.quoted body) else none
  | _ => none

/-- A command name: quoted if it starts with a quote. -/
def readName? (cs : List Char) : Option Lexeme :=
  if cs.head? = some '"' then readQuoted? cs else readBare? cs

/-- Whether an option starts here: a hyphen and a letter. A hyphen before anything else, such as a
digit, is plain text. -/
def atOption : List Char → Bool
  | '-' :: c :: _ => isLetter c
  | _ => false

/-- An argument or the value of an option: a string that is not the start of an option. -/
def readString? (cs : List Char) : Option Lexeme :=
  if atOption cs then none else readName? cs

/-- The value of an option as a line spells it: white space may stand on both sides of the equals
sign. -/
structure Assignment where
  gapBefore : List Char
  gapAfter : List Char
  value : Lexeme
deriving DecidableEq

/-- The characters that assign a value. -/
def Assignment.spelling (a : Assignment) : List Char :=
  a.gapBefore ++ '=' :: a.gapAfter ++ a.value.spelling

/-- An option as a line spells it. Without an assignment it is a flag. -/
structure OptionLexeme where
  name : List Char
  assignment : Option Assignment
deriving DecidableEq

/-- The characters of the line that make up an option. -/
def OptionLexeme.spelling (o : OptionLexeme) : List Char :=
  '-' :: o.name ++ (o.assignment.map Assignment.spelling).getD []

/-- A character of an option's name. -/
def isOptionNameChar (c : Char) : Bool :=
  !isBlank c && c ≠ '='

/-- The option at the front of the text. An equals sign after the name, even across white space,
must be followed by a readable value. -/
def readOption? : List Char → Option OptionLexeme
  | '-' :: rest =>
    let name := rest.takeWhile isOptionNameChar
    let after := rest.dropWhile isOptionNameChar
    if !name.head?.any isLetter then none
    else match after.dropWhile isBlank with
      | '=' :: tail =>
        (readString? (tail.dropWhile isBlank)).map fun value =>
          ⟨name, some ⟨after.takeWhile isBlank, tail.takeWhile isBlank, value⟩⟩
      | _ => some ⟨name, none⟩
  | _ => none

theorem eq_takeWhile_append (p : Char → Bool) (cs : List Char) :
    cs = cs.takeWhile p ++ cs.dropWhile p :=
  List.takeWhile_append_dropWhile.symm

theorem spelling_of_readBare? {cs : List Char} {l : Lexeme} (h : readBare? cs = some l) :
    ∃ rest, cs = l.spelling ++ rest ∧ l.spelling ≠ [] := by
  simp only [readBare?] at h
  split at h
  · simp at h
  · next hne =>
    obtain rfl := Option.some.inj h
    exact ⟨_, eq_takeWhile_append _ cs, by simpa [Lexeme.spelling] using hne⟩

theorem spelling_of_readQuoted? {cs : List Char} {l : Lexeme} (h : readQuoted? cs = some l) :
    ∃ rest, cs = l.spelling ++ rest ∧ l.spelling ≠ [] := by
  unfold readQuoted? at h
  split at h
  · next rest =>
    simp only at h
    split at h
    · next hlt =>
      obtain rfl := Option.some.inj h
      have hsplit := eq_takeWhile_append (· ≠ '"') rest
      cases hd : rest.dropWhile (· ≠ '"') with
      | nil =>
        rw [hd, List.append_nil] at hsplit
        rw [← hsplit] at hlt
        omega
      | cons c tail =>
        have hc : c = '"' := by
          have := List.head?_dropWhile_not (· ≠ '"') rest
          rw [hd] at this
          simpa using this
        subst hc
        refine ⟨tail, ?_, by simp [Lexeme.spelling]⟩
        rw [hd] at hsplit
        simp only [Lexeme.spelling, List.cons_append, List.append_assoc, List.nil_append]
        rw [← hsplit]
    · simp at h
  · simp at h

theorem spelling_of_readName? {cs : List Char} {l : Lexeme} (h : readName? cs = some l) :
    ∃ rest, cs = l.spelling ++ rest ∧ l.spelling ≠ [] := by
  unfold readName? at h
  split at h
  · exact spelling_of_readQuoted? h
  · exact spelling_of_readBare? h

theorem spelling_of_readString? {cs : List Char} {l : Lexeme} (h : readString? cs = some l) :
    ∃ rest, cs = l.spelling ++ rest ∧ l.spelling ≠ [] := by
  unfold readString? at h
  split at h
  · simp at h
  · exact spelling_of_readName? h

theorem spelling_of_readOption? {cs : List Char} {o : OptionLexeme} (h : readOption? cs = some o) :
    ∃ rest, cs = o.spelling ++ rest ∧ o.spelling ≠ [] := by
  unfold readOption? at h
  split at h
  · next rest =>
    simp only at h
    have hname := eq_takeWhile_append isOptionNameChar rest
    split at h
    · simp at h
    · split at h
      · next tail htail =>
        obtain ⟨value, hvalue, rfl⟩ := Option.map_eq_some_iff.1 h
        obtain ⟨after, hafter, _⟩ := spelling_of_readString? hvalue
        refine ⟨after, ?_, by simp [OptionLexeme.spelling]⟩
        have hgap := eq_takeWhile_append isBlank (rest.dropWhile isOptionNameChar)
        have hgap' := eq_takeWhile_append isBlank tail
        simp only [OptionLexeme.spelling, Assignment.spelling, Option.map_some, Option.getD_some,
          List.cons_append, List.append_assoc, List.cons.injEq, true_and]
        rw [← hafter, ← hgap', ← htail, ← hgap, ← hname]
      · obtain rfl := Option.some.inj h
        refine ⟨rest.dropWhile isOptionNameChar, ?_, by simp [OptionLexeme.spelling]⟩
        simp only [OptionLexeme.spelling, Option.map_none, Option.getD_none, List.append_nil,
          List.cons_append, List.cons.injEq, true_and]
        exact hname
  · simp at h

end LineShell.Line
