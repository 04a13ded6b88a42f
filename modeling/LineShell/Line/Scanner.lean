import LineShell.Failure
import LineShell.Line.Lexeme
import LineShell.Value

/-!
A scanner: a line and a cursor in it. Every read either moves the cursor past what it read or leaves
it where it was. Main statements: reads keep the line, and a successful one moves forward.
-/

namespace LineShell.Line

open LineShell.Text

/-- An option that was read. A flag has no value. -/
structure OptionToken where
  name : String
  value : Option String
deriving DecidableEq

/-- Whether an option was given without a value. -/
def OptionToken.isFlag (o : OptionToken) : Bool :=
  o.value.isNone

/-- The option that a lexeme stands for. -/
def OptionLexeme.token (o : OptionLexeme) : OptionToken :=
  ⟨String.ofList o.name, o.assignment.map fun a => String.ofList a.value.text⟩

/-- A line and the number of its characters that have been read. -/
structure Scanner where
  source : List Char
  cursor : Nat
  cursor_le : cursor ≤ source.length

namespace Scanner

/-- A scanner at the start of a line. -/
def ofLine (line : String) : Scanner :=
  ⟨line.toList, 0, Nat.zero_le _⟩

/-- The failure of what should be a line and is no text. -/
def notALine : Failure :=
  ⟨.type, "Scanner() argument must be a string"⟩

/-- A scanner for a host value, which must be a text. -/
def ofValue : Value → Except Failure Scanner
  | .text line => .ok (ofLine line)
  | _ => .error notALine

/-- The characters that have not been read. -/
def rest (s : Scanner) : List Char :=
  s.source.drop s.cursor

/-- The text that has not been read. -/
def remaining (s : Scanner) : String :=
  String.ofList s.rest

/-- The next character, as a text that is empty at the end of the line. -/
def current (s : Scanner) : String :=
  String.ofList (s.rest.take 1)

/-- Whether the whole line has been read. -/
def isEmpty (s : Scanner) : Bool :=
  s.source.length ≤ s.cursor

/-- The scanner some characters further on, at the end of the line at most. -/
def advance (s : Scanner) (count : Nat) : Scanner :=
  ⟨s.source, min (s.cursor + count) s.source.length, Nat.min_le_right ..⟩

/-- The scanner past white space. -/
def skipBlanks (s : Scanner) : Scanner :=
  s.advance (s.rest.takeWhile isBlank).length

/-- The text of a lexeme at the cursor, and the scanner past its spelling. -/
def accept (s : Scanner) (l : Lexeme) : String × Scanner :=
  (String.ofList l.text, s.advance l.spelling.length)

/-- Reads a command name. -/
def name? (s : Scanner) : Option (String × Scanner) :=
  (readName? s.rest).map s.accept

/-- Reads a run without white space. -/
def bare? (s : Scanner) : Option (String × Scanner) :=
  (readBare? s.rest).map s.accept

/-- Reads an argument or the value of an option. -/
def string? (s : Scanner) : Option (String × Scanner) :=
  (readString? s.rest).map s.accept

/-- Reads an option as a whole, its value included. -/
def option? (s : Scanner) : Option (OptionToken × Scanner) :=
  (readOption? s.rest).map fun o => (o.token, s.advance o.spelling.length)

/-- The scanner as diagnostics show it. -/
def describe (s : Scanner) : String :=
  s!"Scanner(source={Text.quoted (String.ofList s.source)}, cursor={s.cursor})"

@[simp] theorem advance_source (s : Scanner) (n : Nat) : (s.advance n).source = s.source := rfl

theorem advance_cursor {s : Scanner} {n : Nat} (h : n ≤ s.rest.length) :
    (s.advance n).cursor = s.cursor + n := by
  simp only [rest, List.length_drop] at h
  have := s.cursor_le
  simp only [advance]
  omega

theorem advance_rest {s : Scanner} {front back : List Char} (h : s.rest = front ++ back) :
    (s.advance front.length).rest = back := by
  have hc : (s.advance front.length).cursor = s.cursor + front.length :=
    advance_cursor (by simp [h])
  have hd : s.source.drop (s.cursor + front.length) = (s.rest).drop front.length := by
    simp [rest, List.drop_drop]
  rw [rest, hc, advance_source, hd, h, List.drop_left]

theorem length_advance_rest_le (s : Scanner) (n : Nat) :
    (s.advance n).rest.length ≤ s.rest.length := by
  have := s.cursor_le
  simp only [rest, advance, List.length_drop]
  omega

theorem skipBlanks_rest (s : Scanner) : s.skipBlanks.rest = s.rest.dropWhile isBlank :=
  advance_rest (eq_takeWhile_append isBlank s.rest)

/-- A successful read of a string leaves less to read. -/
theorem length_rest_lt_of_string? {s t : Scanner} {text : String} (h : s.string? = some (text, t)) :
    t.rest.length < s.rest.length := by
  obtain ⟨l, hl, hacc⟩ := Option.map_eq_some_iff.1 h
  obtain ⟨back, hback, hne⟩ := spelling_of_readString? hl
  obtain rfl : s.advance l.spelling.length = t := congrArg Prod.snd hacc
  rw [advance_rest hback, hback, List.length_append]
  have := List.length_pos_iff.2 hne
  omega

/-- A successful read of a command name leaves less to read. -/
theorem length_rest_lt_of_name? {s t : Scanner} {text : String} (h : s.name? = some (text, t)) :
    t.rest.length < s.rest.length := by
  obtain ⟨l, hl, hacc⟩ := Option.map_eq_some_iff.1 h
  obtain ⟨back, hback, hne⟩ := spelling_of_readName? hl
  obtain rfl : s.advance l.spelling.length = t := congrArg Prod.snd hacc
  rw [advance_rest hback, hback, List.length_append]
  have := List.length_pos_iff.2 hne
  omega

/-- A successful read of an option leaves less to read. -/
theorem length_rest_lt_of_option? {s t : Scanner} {o : OptionToken} (h : s.option? = some (o, t)) :
    t.rest.length < s.rest.length := by
  obtain ⟨l, hl, hacc⟩ := Option.map_eq_some_iff.1 h
  obtain ⟨back, hback, hne⟩ := spelling_of_readOption? hl
  obtain rfl : s.advance l.spelling.length = t := congrArg Prod.snd hacc
  rw [advance_rest hback, hback, List.length_append]
  have := List.length_pos_iff.2 hne
  omega

end Scanner

end LineShell.Line
