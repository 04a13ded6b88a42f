import LineShell.Layout.Styled
import LineShell.Markup.Style

/-!
Printing shapes. What is printed is plain text, but the styles on it are looked up, and one that
cannot be read is a failure.
-/

namespace LineShell.Layout

/-- A shape as it is printed by itself: in a text, the style of the whole is the first span. -/
def standalone : Shape → Shape
  | .text t =>
    let whole := (lookedUp t.style).map fun style => ⟨0, t.text.length, style⟩
    .text ⟨t.text, "", whole ++ t.spans⟩
  | shape => shape

/-- The shape as it is printed. -/
def print (width : Nat) (shape : Shape) : Except Failure String := do
  (shapeStyles width (standalone shape)).forM Markup.Style.check
  return draw width shape

/-- Printed text for the log: no white space at the ends of lines, no empty lines at its end. -/
def clean (printed : String) : String :=
  let body := (printed.toList.reverse.dropWhile (· = '\n')).reverse
  "\n".intercalate ((Text.lines body).map fun line => String.ofList (Text.trimRight line))

/-- The shape as it is printed for the log. -/
def capture (width : Nat) (shape : Shape) : Except Failure String :=
  (print width shape).map clean

end LineShell.Layout
