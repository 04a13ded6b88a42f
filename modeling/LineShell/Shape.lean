import LineShell.Look
import LineShell.Message
import LineShell.Text.Blank
import LineShell.Text.Case

/-!
The shape in which a message is shown: its header, body, hint and trace as styled texts, one after
the other or framed in a panel.
-/

namespace LineShell

/-- A stretch of a text with a style of its own. -/
structure Span where
  start : Nat
  stop : Nat
  style : String
deriving DecidableEq

/-- A text, the style of the whole and those of parts of it. -/
structure StyledText where
  text : String
  style : String
  spans : List Span
deriving DecidableEq

/-- What is shown: texts, groups and framed panels with a title. -/
inductive Shape
  | text (t : StyledText)
  | group (members : List Shape)
  | panel (body : Shape) (title : StyledText)

/-- The control characters that no text keeps: bell, backspace, vertical tab, form feed and
carriage return. -/
def strippedControls : List Nat :=
  [7, 8, 11, 12, 13]

/-- The text without control characters that would move the cursor of a terminal. -/
def stripControls (s : String) : String :=
  String.ofList (s.toList.filter fun c => !strippedControls.contains c.toNat)

namespace StyledText

/-- A text with one style. -/
def plain (s style : String) : StyledText :=
  ⟨stripControls s, style, []⟩

/-- The text with a piece behind it. Pieces without text or without style add no span. -/
def append (t : StyledText) (piece : String × String) : StyledText :=
  let added := stripControls piece.1
  let start := t.text.length
  { t with
    text := t.text ++ added
    spans :=
      if piece.1.isEmpty || piece.2.isEmpty then t.spans
      else t.spans ++ [⟨start, start + added.length, piece.2⟩] }

/-- The text of pieces, each with a style. -/
def assemble (pieces : List (String × String)) : StyledText :=
  pieces.foldl append ⟨"", "", []⟩

end StyledText

namespace Message

/-- A text in title case. -/
def titleCase (s : String) : String :=
  String.ofList (Text.title s.toList)

/-- The text of the body; input is shown behind a prompt. -/
def bodyText (m : Message) : String :=
  (if m.severity = .input then "> " else "") ++ m.text

/-- The title in the header: that of the message, or else its severity. -/
def heading (m : Message) : String :=
  if m.title.isEmpty then titleCase m.severity.name else titleCase m.title

/-- The header of a message with a code. -/
def header (look : Look) (colorful : Bool) (m : Message) (code : FaultCode) : StyledText :=
  let styleOf := look.style colorful
  let program := match look.program with
    | some name => if name.isEmpty then [] else [(name, styleOf .programName), (" — ", "")]
    | none => []
  .assemble ([("[ ", "")] ++ program ++
    [(look.label code, styleOf .code), (" | ", ""), (m.heading, styleOf (.body m.severity)),
      (" ]", "")])

/-- The parts of a message below its header: body, hint and trace. -/
def parts (look : Look) (colorful : Bool) (m : Message) : List StyledText :=
  let styleOf := look.style colorful
  let body := StyledText.plain m.bodyText (styleOf (.body m.severity))
  let hint :=
    if m.hint.isEmpty then []
    else [.assemble [(" → ", styleOf .hintArrow), (m.hint, styleOf .hint)]]
  let trace :=
    if m.trace.isEmpty then []
    else [.plain (String.ofList (Text.trimRight m.trace.toList)) (styleOf .trace)]
  body :: hint ++ trace

/-- The shape of a message. Those with a code have a header, which a panel takes as its title. -/
def shape (look : Look) (colorful fancy : Bool) (m : Message) : Shape :=
  let parts := (m.parts look colorful).map .text
  match m.code with
  | none =>
    match parts with
    | [part] => part
    | _ => .group parts
  | some code =>
    let header := m.header look colorful code
    if fancy then .panel (.group parts) header else .group (.text header :: parts)

end Message

end LineShell
