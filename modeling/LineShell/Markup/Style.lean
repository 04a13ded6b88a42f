import LineShell.Markup.Color

/-!
Styles as markup names them. Two names may mean the same style, such as a word and its short form,
so that a closing tag is compared with an opening one by the canonical name of the style.
-/

namespace LineShell.Markup

/-- The ways in which text stands out, apart from its colours. -/
inductive Emphasis
  | bold
  | dim
  | italic
  | underline
  | blink
  | blink2
  | reverse
  | conceal
  | strike
  | underline2
  | frame
  | encircle
  | overline
deriving DecidableEq

namespace Emphasis

/-- All of them, in the order in which a canonical name lists them. -/
def all : List Emphasis :=
  [bold, dim, italic, underline, blink, blink2, reverse, conceal, strike, underline2, frame,
    encircle, overline]

/-- The words that mean an emphasis, its name first. -/
def words : Emphasis → List String
  | bold => ["bold", "b"]
  | dim => ["dim", "d"]
  | italic => ["italic", "i"]
  | underline => ["underline", "u"]
  | blink => ["blink"]
  | blink2 => ["blink2"]
  | reverse => ["reverse", "r"]
  | conceal => ["conceal", "c"]
  | strike => ["strike", "s"]
  | underline2 => ["underline2", "uu"]
  | frame => ["frame"]
  | encircle => ["encircle"]
  | overline => ["overline", "o"]

/-- The name of an emphasis. -/
def name (e : Emphasis) : String :=
  e.words.head?.getD ""

/-- The emphasis that a word means. -/
def ofWord? (word : String) : Option Emphasis :=
  all.find? (·.words.contains word)

end Emphasis

/-- A style: what text stands out by or is kept from standing out by, its colours and its link. -/
structure Style where
  emphases : List (Emphasis × Bool) := []
  color : Option String := none
  background : Option String := none
  link : Option String := none

namespace Style

/-- The style with an emphasis on or off. The last word on it counts. -/
def emphasize (s : Style) (e : Emphasis) (on : Bool) : Style :=
  { s with emphases := (e, on) :: s.emphases }

/-- The style that further words make of a style, none if they make no sense. -/
def extend (s : Style) : List String → Except Failure (Option Style)
  | [] => .ok (some s)
  | [word] => do
    match Emphasis.ofWord? (normalize word) with
    | some e => return some (s.emphasize e true)
    | none =>
      if ["on", "not", "link"].contains (normalize word) then return none
      else if ← isColor word then return some { s with color := some (normalize word) }
      else return none
  | word :: next :: rest => do
    let name := normalize word
    if name = "on" then
      if ← isColor next then extend { s with background := some (normalize next) } rest
      else return none
    else if name = "not" then
      match Emphasis.ofWord? next with
      | some e => extend (s.emphasize e false) rest
      | none => return none
    else if name = "link" then extend { s with link := some next } rest
    else match Emphasis.ofWord? name with
      | some e => extend (s.emphasize e true) (next :: rest)
      | none =>
        if ← isColor word then extend { s with color := some name } (next :: rest)
        else return none

/-- The style that a text describes, none if it describes none. -/
def ofText? (text : List Char) : Except Failure (Option Style) :=
  if Text.trim text = "none".toList then .ok (some {})
  else extend {} ((Text.blankSeparated text).map String.ofList)

/-- The words of an emphasis in a canonical name, if it is on or off. -/
def emphasisName (s : Style) (e : Emphasis) : Option String :=
  (s.emphases.lookup e).map fun on => if on then e.name else "not " ++ e.name

/-- The canonical name of a style. -/
def name (s : Style) : String :=
  let colors := s.color.toList ++ (s.background.map ("on " ++ ·)).toList
  let words := Emphasis.all.filterMap s.emphasisName ++ colors ++
    (s.link.map ("link " ++ ·)).toList
  if words.isEmpty then "none" else " ".intercalate words

/-- The canonical form of the name of a style. What describes no style stands for itself. -/
def canonicalName (text : List Char) : Except Failure (List Char) := do
  match ← ofText? text with
  | some style => return style.name.toList
  | none => return Text.lower (Text.trim text)

/-- Makes sure that a style can be read. What a text describes need not be a style. -/
def check (text : String) : Except Failure Unit :=
  (ofText? text.toList).map fun _ => ()

end Style

end LineShell.Markup
