import LineShell.Text.Blank

/-!
The words of a text: what stands between its white space.
-/

namespace LineShell.Text

/-- A word, given last character first, before further words. -/
def startWord (word : List Char) (rest : List (List Char)) : List (List Char) :=
  if word.isEmpty then rest else word.reverse :: rest

/-- The words of a text whose current word has the characters `word`, last one first. -/
def blankSeparatedFrom (word : List Char) : List Char → List (List Char)
  | [] => startWord word []
  | c :: rest =>
    if isBlank c then startWord word (blankSeparatedFrom [] rest)
    else blankSeparatedFrom (c :: word) rest

/-- The words of a text. -/
def blankSeparated (text : List Char) : List (List Char) :=
  blankSeparatedFrom [] text

end LineShell.Text
