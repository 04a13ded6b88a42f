/-!
White space in every script, and the cuts that are made at it: trimming, words and line ends.
-/

namespace LineShell.Text

/-- The code points of white space, the four information separators of ASCII among them. -/
def blankCodes : List Nat :=
  [ 0x9, 0xA, 0xB, 0xC, 0xD, 0x1C, 0x1D, 0x1E, 0x1F, 0x20, 0x85, 0xA0, 0x1680, 0x2000, 0x2001,
    0x2002, 0x2003, 0x2004, 0x2005, 0x2006, 0x2007, 0x2008, 0x2009, 0x200A, 0x2028, 0x2029,
    0x202F, 0x205F, 0x3000 ]

/-- A white-space character. -/
def isBlank (c : Char) : Bool :=
  blankCodes.contains c.toNat

/-- The text without its leading white space. -/
def trimLeft (cs : List Char) : List Char :=
  cs.dropWhile isBlank

/-- The text without its trailing white space. -/
def trimRight (cs : List Char) : List Char :=
  (cs.reverse.dropWhile isBlank).reverse

/-- The text without white space at either end. -/
def trim (cs : List Char) : List Char :=
  trimRight (trimLeft cs)

/-- The code points that end a line, besides the pair of carriage return and line feed. -/
def lineEndCodes : List Nat :=
  [0xA, 0xB, 0xC, 0xD, 0x1C, 0x1D, 0x1E, 0x85, 0x2028, 0x2029]

/-- A character that ends a line. -/
def isLineEnd (c : Char) : Bool :=
  lineEndCodes.contains c.toNat

/-- The lines of a text whose current line has the characters `line`, last one first. A line end
at the very end opens no further line. -/
def linesFrom (line : List Char) : List Char → List (List Char)
  | [] => if line.isEmpty then [] else [line.reverse]
  | '\r' :: '\n' :: rest => line.reverse :: linesFrom [] rest
  | c :: rest =>
    if isLineEnd c then line.reverse :: linesFrom [] rest else linesFrom (c :: line) rest

/-- The lines of a text, cut at every line end of any script. -/
def lines (cs : List Char) : List (List Char) :=
  linesFrom [] cs

/-- The pieces of a text between the occurrences of a separator: one more than there are
separators. -/
def splitAt (sep : Char) : List Char → List (List Char)
  | [] => [[]]
  | c :: rest =>
    if c = sep then [] :: splitAt sep rest
    else match splitAt sep rest with
      | [] => [[c]]
      | piece :: pieces => (c :: piece) :: pieces

end LineShell.Text
