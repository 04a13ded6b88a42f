import LineShell.Text.Blank

/-!
Markup as pieces: plain text and tags between square brackets. A tag starts with a lower-case letter
or one of three signs; an odd number of backslashes before it makes it plain text, and of each pair
of backslashes one stays. Main statement: reading a tag consumes text.
-/

namespace LineShell.Markup

/-- A tag: its name and, behind an equals sign, its parameters. -/
structure Tag where
  name : List Char
  parameters : Option (List Char)
deriving DecidableEq

/-- The tag as it is written. -/
def Tag.source (t : Tag) : String :=
  let parameters := (t.parameters.map ('=' :: ·)).getD []
  String.ofList (['['] ++ t.name ++ parameters ++ [']'])

/-- A piece of markup: plain text, or a tag with its position. -/
inductive Piece
  | plain (text : List Char)
  | tag (position : Nat) (t : Tag)
deriving DecidableEq

/-- Whether a character may start a tag. -/
def startsTag (c : Char) : Bool :=
  c.isLower || c = '#' || c = '/' || c = '@'

/-- Whether a character may stand inside a tag. -/
def isTagChar (c : Char) : Bool :=
  c ≠ '[' && c ≠ ']'

/-- The text of a tag behind its opening bracket, and what follows the closing one. -/
def readTag? : List Char → Option (List Char × List Char)
  | [] => none
  | c :: rest =>
    if startsTag c then
      match rest.dropWhile isTagChar with
      | ']' :: after => some (c :: rest.takeWhile isTagChar, after)
      | _ => none
    else none

/-- The tag that a text between brackets is. -/
def Tag.ofText (text : List Char) : Tag :=
  let name := text.takeWhile (· ≠ '=')
  match text.dropWhile (· ≠ '=') with
  | '=' :: parameters => ⟨name, some parameters⟩
  | _ => ⟨name, none⟩

/-- Plain text without the backslash before each bracket. -/
def unescape : List Char → List Char
  | '\\' :: '[' :: rest => '[' :: unescape rest
  | c :: rest => c :: unescape rest
  | [] => []

/-- The piece that pending characters are, last one first; none if there are none. -/
def pending (plain : List Char) : List Piece :=
  if plain.isEmpty then [] else [.plain (unescape plain.reverse)]

/-- The piece that pairs of backslashes are. -/
def backslashes (pairs : Nat) : List Piece :=
  if pairs = 0 then [] else [.plain (List.replicate pairs '\\')]

theorem length_readTag? {text : List Char} {tag after : List Char}
    (h : readTag? text = some (tag, after)) : after.length < text.length := by
  unfold readTag? at h
  split at h
  · cases h
  · next c rest =>
    split at h
    · split at h
      · next heq =>
        cases h
        have := (List.dropWhile_suffix isTagChar (l := rest)).length_le
        rw [heq] at this
        simp at this ⊢
        omega
      · cases h
    · cases h

/-- The pieces of markup. `position` is where the text starts, `plain` holds the characters of a
plain piece that is not yet complete, last one first. -/
def piecesFrom (position : Nat) (plain text : List Char) : List Piece :=
  let slashes := (text.takeWhile (· = '\\')).length
  match _rest : text.dropWhile (· = '\\') with
  | [] => pending (text.reverse ++ plain)
  | c :: behind =>
    match _tag : if c = '[' then readTag? behind else none with
    | some (tag, after) =>
      let next := position + slashes + 1 + (behind.length - after.length)
      let found : Piece :=
        if slashes % 2 = 1 then .plain (['['] ++ tag ++ [']'])
        else .tag (position + slashes) (.ofText tag)
      pending plain ++ backslashes (slashes / 2) ++ found :: piecesFrom next [] after
    | none =>
      piecesFrom (position + slashes + 1)
        (c :: List.replicate slashes '\\' ++ plain) behind
termination_by text.length
decreasing_by
  all_goals
    have hle := (List.dropWhile_suffix (fun d : Char => decide (d = '\\')) (l := text)).length_le
    rw [_rest] at hle
    simp at hle
  · have : after.length < behind.length := by
      split at _tag
      · exact length_readTag? _tag
      · cases _tag
    omega
  · omega

/-- The pieces of markup. -/
def pieces (text : List Char) : List Piece :=
  piecesFrom 0 [] text

end LineShell.Markup
