import LineShell.Text.Blank
import LineShell.Text.Cells

/-!
Breaking text into lines of a given width in cells. Lines break before words; a word includes the
white space on its right, which does not count when it is seen whether the word still fits. What a
word is too wide for depends on the overflow: it is folded into pieces, or cut with an ellipsis.
-/

namespace LineShell.Layout

open LineShell.Text

/-- A line of text. -/
abbrev Line := List Char

/-- What becomes of a word that is wider than the line. -/
inductive Overflow
  | fold
  | ellipsis
deriving DecidableEq

/-- Spaces. -/
def spaces (n : Nat) : Line :=
  List.replicate n ' '

/-- The line with spaces up to a width. -/
def padTo (width : Nat) (line : Line) : Line :=
  line ++ spaces (width - cells line)

/-- A front part of the line with exactly the given cells, found by halving the range of its
lengths; where only half of a wide character would fit, a space takes its place. -/
def cropBetween (total : Nat) (line : Line) : Nat → Nat → Nat → Line
  | 0, low, _ => line.take low
  | fuel + 1, low, high =>
    let middle := (low + high) / 2
    let front := line.take (middle + 1)
    let size := cells front
    if size = total + 1 && front.getLast?.any (cellsOf · = 2) then front.dropLast ++ [' ']
    else if size = total then front
    else if total < size then cropBetween total line fuel low middle
    else cropBetween total line fuel middle high

/-- The front part of a line that is wider than the given cells. -/
def crop (total : Nat) (line : Line) : Line :=
  if total = 0 then []
  else if cells line ≤ total then line
  else cropBetween total line (line.length + 1) 0 line.length

/-- The line within a width, cut if it is wider. -/
def truncate (width : Nat) (overflow : Overflow) (line : Line) : Line :=
  if cells line ≤ width then line
  else match overflow with
    | .fold => crop width line
    | .ellipsis => crop (width - 1) line ++ ['…']

/-- The line without trailing white space, as far as it has more characters than the width. -/
def trimExcess (width : Nat) (line : Line) : Line :=
  let blanks := (line.reverse.takeWhile isBlank).length
  line.take (line.length - min blanks (line.length - width))

/-- Tabs as spaces up to the next multiple of eight cells; `column` is where the text starts. -/
def expandTabs (column : Nat) : Line → Line
  | [] => []
  | '\t' :: rest =>
    let stop := (column / 8 + 1) * 8
    spaces (stop - column) ++ expandTabs stop rest
  | c :: rest => c :: expandTabs (column + cellsOf c) rest

/-- The pieces of a word that is wider than a line. -/
def chopFrom (width used : Nat) (piece : Line) : Line → List Line
  | [] => [piece.reverse]
  | c :: rest =>
    if width < used + cellsOf c then piece.reverse :: chopFrom width (cellsOf c) [c] rest
    else chopFrom width (used + cellsOf c) (c :: piece) rest

/-- The pieces of a word that is wider than a line, each as wide as fits. -/
def chop (width : Nat) (word : Line) : List Line :=
  chopFrom width 0 [] word

/-- A line that is being filled: the lines before it, last one first, and its text so far. -/
structure Filling where
  done : List Line
  current : Line
  used : Nat

namespace Filling

/-- Whether no text has been placed yet. -/
def atStart (f : Filling) : Bool :=
  f.done.isEmpty && f.current.isEmpty

/-- Text on the current line. -/
def extend (f : Filling) (text : Line) (used : Nat) : Filling :=
  { f with current := f.current ++ text, used }

/-- Text on a new line, unless nothing has been placed before it. -/
def openLine (f : Filling) (text : Line) : Filling :=
  if f.atStart then f.extend text (cells text)
  else ⟨f.current :: f.done, text, cells text⟩

/-- A word on the current line if it fits, or else on a new one. -/
def place (width : Nat) (overflow : Overflow) (f : Filling) (word : Line) : Filling :=
  let needed := cells (trimRight word)
  if f.used + needed ≤ width then f.extend word (f.used + cells word)
  else if width < needed && overflow = .fold then (chop width word).foldl openLine f
  else f.openLine word

/-- All lines. -/
def lines (f : Filling) : List Line :=
  (f.current :: f.done).reverse

end Filling

/-- The words of a text that starts with a word, each with the white space on its right. -/
def wordsFrom (word : Line) : Line → List Line
  | [] => [word.reverse]
  | c :: rest =>
    if !isBlank c && word.head?.any isBlank then word.reverse :: wordsFrom [c] rest
    else wordsFrom (c :: word) rest

/-- The words of a text, the first one with the white space before it. -/
def words (text : Line) : List Line :=
  let margin := text.takeWhile isBlank
  match text.dropWhile isBlank with
  | [] => [margin]
  | c :: rest =>
    match wordsFrom [c] rest with
    | [] => []
    | first :: others => (margin ++ first) :: others

/-- The lines that the words of a text fill. -/
def fill (width : Nat) (overflow : Overflow) (text : Line) : List Line :=
  ((words text).foldl (Filling.place width overflow) ⟨[], [], 0⟩).lines

/-- One line of text broken to a width. -/
def breakLine (width : Nat) (overflow : Overflow) (line : Line) : List Line :=
  let line := if line.contains '\t' then expandTabs 0 line else line
  (fill width overflow line).map fun l => truncate width overflow (trimExcess width l)

/-- A text broken to a width, its own line ends kept. -/
def wrap (width : Nat) (overflow : Overflow) (text : Line) : List Line :=
  (splitAt '\n' text).flatMap (breakLine width overflow)

end LineShell.Layout
