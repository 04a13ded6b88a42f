import LineShell.Text.CharacterName.Table
import LineShell.Text.Ranges
import LineShell.Text.Word

/-!
Which texts name a character. Ideographs and syllables are named by rule; the case of letters does
not count in the other names.
-/

namespace LineShell.Text

/-- The number that a digit, or a lower-case letter for ten and more, stands for. -/
def countOf (c : Char) : Nat :=
  if c.isDigit then c.toNat - 48 else c.toNat - 87

/-- The names that entries of a table stand for, in words, when another name stands before them. -/
def namesAfter (previous : List (List Char)) : List (List Char) → List (List (List Char))
  | [] => []
  | [] :: entries => namesAfter previous entries
  | (count :: words) :: entries =>
    let name := previous.take (countOf count) ++ splitAt '_' words
    name :: namesAfter name entries

/-- Whether tables list a name. -/
@[noinline] def isListed (tables : List (Char × String)) (name : List Char) : Bool :=
  match (name.head?.bind fun c => tables.lookup c) with
  | some table => (namesAfter [] (blankSeparated table.toList)).contains (splitAt ' ' name)
  | none => false

/-- The ranges of ideographs, which are named by their numbers. -/
def ideographRanges : List (Nat × Nat) :=
  [ (0x3400, 0x4DBF), (0x4E00, 0x9FFF), (0x20000, 0x2A6DF), (0x2A700, 0x2B738), (0x2B740, 0x2B81D),
    (0x2B820, 0x2CEA1), (0x2CEB0, 0x2EBE0), (0x30000, 0x3134A) ]

/-- The number that four or five digits in base sixteen write, letters in upper case. -/
def ideographNumber? (digits : List Char) : Option Nat :=
  if digits.length ≠ 4 && digits.length ≠ 5 then none
  else
    digits.foldlM (fun n c =>
      if c.isDigit then some (16 * n + (c.toNat - 48))
      else if 'A' ≤ c && c ≤ 'F' then some (16 * n + (c.toNat - 55))
      else none) 0

/-- The parts of the names of syllables: what they may start with, their vowels, and their ends. -/
def syllableParts : List (List String) :=
  [ ["G", "GG", "N", "D", "DD", "R", "M", "B", "BB", "S", "SS", "", "J", "JJ", "C", "K", "T", "P",
      "H"],
    ["A", "AE", "YA", "YAE", "EO", "E", "YEO", "YE", "O", "WA", "WAE", "OE", "YO", "U", "WEO", "WE",
      "WI", "YU", "EU", "YI", "I"],
    ["", "G", "GG", "GS", "N", "NJ", "NH", "D", "L", "LG", "LM", "LB", "LS", "LT", "LP", "LH", "M",
      "B", "BS", "S", "SS", "NG", "J", "C", "K", "T", "P", "H"] ]

/-- What is left of a text once the longest of several words is taken from its front, none if it
starts with none of them. -/
def takeLongest? (words : List String) (text : List Char) : Option (List Char) :=
  let fitting := words.filter (·.toList.isPrefixOf text)
  (fitting.map String.length).max?.map text.drop

/-- Whether a text is the name of a syllable behind the word for syllables. -/
def isSyllable (text : List Char) : Bool :=
  syllableParts.foldlM (fun rest words => takeLongest? words rest) text = some []

/-- What follows a word at the front of a text. -/
def behind? (word : String) (text : List Char) : Option (List Char) :=
  if word.toList.isPrefixOf text then some (text.drop word.length) else none

/-- Whether a text names a character. -/
def isCharacterName (name : List Char) : Bool :=
  match behind? "HANGUL SYLLABLE " name, behind? "CJK UNIFIED IDEOGRAPH-" name with
  | some rest, _ => isSyllable rest
  | none, some digits => (ideographNumber? digits).any fun n => inRanges ideographRanges n
  | none, none => isListed characterNameTables (name.map Char.toUpper)

end LineShell.Text
