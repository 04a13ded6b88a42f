import LineShell.Markup.Action
import LineShell.Markup.Emoji
import LineShell.Markup.Piece
import LineShell.Markup.Style
import LineShell.Shape

/-!
Markup as a styled text. Tags leave no text behind but a span, and an action not even that. A
closing tag must close an open one of the same style, the innermost one first; one without a name
closes the innermost of all. What is left open is closed by the end of the text.
-/

namespace LineShell.Markup

/-- Whether a tag closes another. -/
def Tag.isClosing (t : Tag) : Bool :=
  t.name.head? = some '/'

/-- Whether a tag calls a handler. -/
def Tag.isAction (t : Tag) : Bool :=
  t.name.head? = some '@'

/-- The text by which an open tag describes its style. -/
def Tag.description (t : Tag) : List Char :=
  t.name ++ (t.parameters.map (' ' :: ·)).getD []

/-- An open tag and where the text inside it starts. -/
structure OpenTag where
  tag : Tag
  start : Nat

/-- The span of an open tag that is closed where the text has a length. -/
def OpenTag.span (t : OpenTag) (stop : Nat) : Span :=
  ⟨t.start, stop, String.ofList t.tag.description⟩

/-- The failure of a closing tag with a name that is not open. -/
def notOpen (t : Tag) (position : Nat) : Failure :=
  ⟨.markup, s!"closing tag '{t.source}' at position {position} doesn't match any open tag"⟩

/-- The failure of a closing tag without a name where nothing is open. -/
def nothingOpen (position : Nat) : Failure :=
  ⟨.markup, s!"closing tag '[/]' at position {position} has nothing to close"⟩

/-- The innermost open tag of a name and the other open ones. -/
def takeOpen (name : List Char) : List OpenTag → Option (OpenTag × List OpenTag)
  | [] => none
  | t :: outer =>
    if t.tag.name = name then some (t, outer)
    else (takeOpen name outer).map fun (found, others) => (found, t :: others)

/-- Makes sure that the arguments of an action are well formed; those left empty are. -/
def checkArguments (t : Tag) : Except Failure Unit :=
  match t.parameters with
  | some parameters => if parameters.isEmpty then .ok () else checkAction parameters
  | none => .ok ()

/-- The open tag that a closing one closes, and the ones that stay open, innermost first. -/
def close (opened : List OpenTag) (position : Nat) (t : Tag) :
    Except Failure (OpenTag × List OpenTag) := do
  let name := Text.trim (t.name.drop 1)
  if name.isEmpty then
    match opened with
    | found :: outer => return (found, outer)
    | [] => .error (nothingOpen position)
  else
    match takeOpen (← Style.canonicalName name) opened with
    | some result => return result
    | none => .error (notOpen t position)

/-- The text of pieces and all spans, those of tags that are closed late first. `length` is the
length of the text so far, `opened` holds the open tags, innermost first, and `closed` the spans of
those that have been closed. -/
def styledFrom (length : Nat) (opened : List OpenTag) (closed : List Span) :
    List Piece → Except Failure (String × List Span)
  | [] => .ok ("", opened.reverse.map (·.span length) ++ closed)
  | .plain text :: rest => do
    let shown := stripControls (String.ofList (withEmoji text))
    let (text, spans) ← styledFrom (length + shown.length) opened closed rest
    return (shown ++ text, spans)
  | .tag position t :: rest => do
    if t.isClosing then
      let (found, opened) ← close opened position t
      if found.tag.isAction then
        checkArguments found.tag
        styledFrom length opened closed rest
      else styledFrom length opened (found.span length :: closed) rest
    else
      let name ← Style.canonicalName t.name
      styledFrom length (⟨{ t with name }, length⟩ :: opened) closed rest

/-- The text of markup with its spans, in the order in which they start. -/
def styled (text : List Char) : Except Failure StyledText := do
  let (text, spans) ← styledFrom 0 [] [] (pieces text)
  return ⟨text, "", spans.mergeSort fun a b => a.start ≤ b.start⟩

end LineShell.Markup
