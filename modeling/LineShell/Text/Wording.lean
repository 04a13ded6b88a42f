import LineShell.Text.Case

/-!
English wording for diagnostics: ordinals, plurals and the number of arguments a command takes.
-/

namespace LineShell.Text

/-- The ending of an ordinal. The numbers from eleven to nineteen in each hundred take `th`. -/
def ordinalSuffix (n : Int) : String :=
  if 10 < n.fmod 100 && n.fmod 100 < 20 then "th"
  else if n.fmod 10 = 1 then "st"
  else if n.fmod 10 = 2 then "nd"
  else if n.fmod 10 = 3 then "rd"
  else "th"

/-- A number as a position: `1st`, `2nd`, `11th`. -/
def ordinal (n : Int) : String :=
  toString n ++ ordinalSuffix n

/-- The endings after which a plural takes `es`. -/
def sibilants : List (List Char) :=
  [['s'], ['s', 'h'], ['c', 'h'], ['x'], ['z']]

/-- Whether the text ends in a consonant and `y`. -/
def endsConsonantY (cs : List Char) : Bool :=
  match cs.reverse with
  | 'y' :: c :: _ => !"aeiou".toList.contains c
  | _ => false

/-- The form of a word for a count. -/
def pluralize (word : String) (count : Int) : String :=
  let low := lower word.toList
  if count = 1 || word.isEmpty then word
  else if sibilants.any fun ending => ending.isSuffixOf low then word ++ "es"
  else if endsConsonantY low then String.ofList word.toList.dropLast ++ "ies"
  else word ++ "s"

/-- How many arguments a command takes, in words; a greatest number of minus one is no bound. -/
def describeArity (least greatest : Int) : String :=
  let noun := pluralize "argument"
  if greatest = -1 then
    if least = 0 then "any number of arguments"
    else s!"at least {least} {noun least}"
  else if least = greatest then s!"exactly {least} {noun least}"
  else s!"{least} to {greatest} {noun greatest}"

end LineShell.Text
