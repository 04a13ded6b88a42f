import LineShell.Layout.Line
import LineShell.Shape

/-!
Laying out shapes as plain lines: texts are wrapped, groups stand one below the other, and panels
are drawn with a frame as wide as the line.
-/

namespace LineShell.Layout

/-- A stretch of a frame's edge. -/
def rule (n : Nat) : Line :=
  List.replicate n '─'

/-- The title of a panel between spaces on a single line, as it stands in the edge. -/
def panelTitle (width : Nat) (title : Line) : Line :=
  let flat := title.map fun c => if c = '\n' then ' ' else c
  let text := truncate width .fold ([' '] ++ expandTabs 0 flat ++ [' '])
  truncate width .fold (trimExcess width (text ++ rule (width - Text.cells text)))

/-- The upper edge of a panel. A narrow one has no room for its title. -/
def panelTop (width : Nat) (title : Line) : Line :=
  if width ≤ 4 then ['╭'] ++ rule (width - 2) ++ ['╮']
  else ['╭', '─'] ++ panelTitle (width - 4) title ++ ['─', '╮']

/-- The lower edge of a panel. -/
def panelBottom (width : Nat) : Line :=
  ['╰'] ++ rule (width - 2) ++ ['╯']

/-- A line inside a panel. -/
def panelLine (width : Nat) (line : Line) : Line :=
  ['│', ' '] ++ padTo (width - 4) line ++ [' ', '│']

mutual

/-- The lines of a shape at a width; there are none without any cells. -/
def shapeLines (width : Nat) : Shape → List Line
  | .text t => if width = 0 then [] else wrap width .fold t.text.toList
  | .group members => if width = 0 then [] else memberLines width members
  | .panel body title =>
    if width = 0 then []
    else
      panelTop width title.text.toList ::
        (shapeLines (width - 4) body).map (panelLine width) ++ [panelBottom width]

/-- The lines of several shapes. -/
def memberLines (width : Nat) : List Shape → List Line
  | [] => []
  | shape :: shapes => shapeLines width shape ++ memberLines width shapes

end

/-- The shape as plain text: every line within the width, with a line end. -/
def draw (width : Nat) (shape : Shape) : String :=
  String.ofList ((shapeLines width shape).flatMap fun line => crop width line ++ ['\n'])

end LineShell.Layout
