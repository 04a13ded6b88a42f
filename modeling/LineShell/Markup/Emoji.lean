import LineShell.Markup.Emoji.Table
import LineShell.Text.Case
import LineShell.Text.Word

/-!
Pictographs in a text: a name between two colons stands for the pictograph of that name, in any
case. Behind the name it may say whether the pictograph is to look like text or like a picture.
-/

namespace LineShell.Markup

/-- Words in pairs. -/
def inPairs : List (List Char) → List (List Char × List Char)
  | name :: emoji :: rest => (name, emoji) :: inPairs rest
  | _ => []

/-- The pictographs with their names. -/
def emojis : List (List Char × List Char) :=
  inPairs (Text.blankSeparated emojiWords.toList)

/-- The endings of a code that ask for a variant, and the character that selects it. -/
def variants : List (List Char × Char) :=
  [("-emoji".toList, '\ufe0f'), ("-text".toList, '\ufe0e')]

/-- The name in a code, and the character that selects the variant. -/
def splitVariant (code : List Char) : List Char × List Char :=
  match variants.find? fun v => v.1.isSuffixOf code with
  | some (ending, selector) => (code.take (code.length - ending.length), [selector])
  | none => (code, [])

/-- The pictograph that a code calls for. -/
def emojiOf? (code : List Char) : Option (List Char) :=
  let (name, selector) := splitVariant code
  (emojis.lookup (Text.lower name)).map (· ++ selector)

/-- Whether a character may stand in a code. -/
def isCodeChar (c : Char) : Bool :=
  c ≠ ':' && !Text.isBlank c

/-- The text with its codes replaced by pictographs. What stands between two colons and is no name
stays, and so do the colons. -/
def withEmoji : List Char → List Char
  | [] => []
  | c :: rest =>
    if c = ':' then
      match _end : rest.dropWhile isCodeChar with
      | ':' :: after =>
        let code := rest.takeWhile isCodeChar
        (emojiOf? code).getD ([':'] ++ code ++ [':']) ++ withEmoji after
      | _ => c :: withEmoji rest
    else c :: withEmoji rest
termination_by text => text.length
decreasing_by
  all_goals simp
  have := (List.dropWhile_suffix isCodeChar (l := rest)).length_le
  rw [_end] at this
  simp at this
  omega

end LineShell.Markup
