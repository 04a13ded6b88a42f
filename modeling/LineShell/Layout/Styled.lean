import LineShell.Layout.Frame

/-!
Which styles are looked up when a shape is laid out: those of the spans that are left on the lines
of its texts. A span that is empty is lost where its text is broken, and one that starts behind the
end of a line is lost where the line is cut.
-/

namespace LineShell.Layout

/-- A line and the spans on it. -/
structure StyledLine where
  text : Line
  spans : List Span

/-- The part of a span on a piece of a line, counted from the start of the piece; none if it is
empty. -/
def spanWithin (start length : Nat) (s : Span) : Option Span :=
  let first := s.start - start
  let last := min (s.stop - start) length
  if first < last then some ⟨first, last, s.style⟩ else none

/-- Pieces of a line with the spans on them. The first piece starts at a position, and a gap follows
each of them. -/
def spread (gap start : Nat) (spans : List Span) : List Line → List StyledLine
  | [] => []
  | piece :: pieces =>
    ⟨piece, spans.filterMap (spanWithin start piece.length)⟩ ::
      spread gap (start + piece.length + gap) spans pieces

/-- A line broken into pieces. One that stays whole keeps its spans as they are. -/
def breakInto (gap : Nat) (spans : List Span) : List Line → List StyledLine
  | [whole] => [⟨whole, spans⟩]
  | pieces => spread gap 0 spans pieces

namespace StyledLine

/-- The line with its tabs expanded. -/
def expandTabs (l : StyledLine) : StyledLine :=
  if l.text.contains '\t' then
    let place (i : Nat) := (Layout.expandTabs 0 (l.text.take i)).length
    ⟨Layout.expandTabs 0 l.text,
      (l.spans.filter fun s => s.start < s.stop).map fun s =>
        ⟨place s.start, place s.stop, s.style⟩⟩
  else l

/-- The line with another text; if that is shorter, spans do not reach beyond its end. -/
def withText (l : StyledLine) (text : Line) : StyledLine :=
  ⟨text,
    if text.length < l.text.length then
      (l.spans.filter (·.start < text.length)).map fun s =>
        { s with stop := min s.stop text.length }
    else l.spans⟩

/-- The line without white space in excess of a width, and cut if it is still wider. -/
def fit (width : Nat) (l : StyledLine) : StyledLine :=
  let trimmed := l.withText (trimExcess width l.text)
  trimmed.withText (truncate width .fold trimmed.text)

/-- The line broken to a width. -/
def wrap (width : Nat) (l : StyledLine) : List StyledLine :=
  let expanded := l.expandTabs
  (breakInto 0 expanded.spans (fill width .fold expanded.text)).map (fit width)

end StyledLine

/-- The lines of a text at a width. -/
def styledLines (width : Nat) (t : StyledText) : List StyledLine :=
  (breakInto 1 t.spans (Text.splitAt '\n' t.text.toList)).flatMap (·.wrap width)

/-- A style as one that is looked up; none if it is empty. -/
def lookedUp (style : String) : List String :=
  if style.isEmpty then [] else [style]

/-- The styles that are looked up for a text: on each of its lines that of the whole and those of
the spans. -/
def textStyles (width : Nat) (t : StyledText) : List String :=
  (styledLines width t).flatMap fun l => lookedUp t.style ++ l.spans.map (·.style)

/-- The title of a panel as it stands in the edge. -/
def styledTitle (width : Nat) (title : StyledText) : StyledLine :=
  let flat : StyledLine :=
    ⟨title.text.toList.map fun c => if c = '\n' then ' ' else c, title.spans⟩
  let expanded := flat.expandTabs
  let padded : StyledLine :=
    ⟨[' '] ++ expanded.text ++ [' '],
      expanded.spans.map fun s => { s with start := s.start + 1, stop := s.stop + 1 }⟩
  let cut := padded.withText (truncate width .fold padded.text)
  let filled := { cut with text := cut.text ++ rule (width - Text.cells cut.text) }
  filled.fit width

mutual

/-- The styles that are looked up for a shape at a width, those of a title after the body's. A
narrow panel has no room for its title. -/
def shapeStyles (width : Nat) : Shape → List String
  | .text t => if width = 0 then [] else textStyles width t
  | .group members => if width = 0 then [] else memberStyles width members
  | .panel body title =>
    if width = 0 then []
    else
      shapeStyles (width - 4) body ++
        if width ≤ 4 then []
        else lookedUp title.style ++ (styledTitle (width - 4) title).spans.map (·.style)

/-- The styles that are looked up for several shapes. -/
def memberStyles (width : Nat) : List Shape → List String
  | [] => []
  | shape :: shapes => shapeStyles width shape ++ memberStyles width shapes

end

end LineShell.Layout
