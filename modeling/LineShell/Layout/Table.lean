import LineShell.Layout.Print

/-!
Tables of two columns without borders. A column is as wide as its widest cell, and two spaces stand
between the columns. If the table is too wide, the wider column is narrowed.
-/

namespace LineShell.Layout

/-- The width of the text of a cell. -/
def cellWidth (text : Line) : Nat :=
  ((Text.lines text).map Text.cells).foldl max 0

/-- The width of a column with its one space of padding, within the width of the table. -/
def columnWidth (limit : Nat) (column : List Line) : Nat :=
  (column.map fun text => min limit (min limit (cellWidth text) + 1)).foldl max 0

/-- A quotient rounded to the nearest whole number, a half to the even one. -/
def roundHalfEven (n d : Nat) : Nat :=
  let quotient := n / d
  let rest := 2 * (n % d)
  if d < rest || (rest = d && quotient % 2 = 1) then quotient + 1 else quotient

/-- Takes an excess away from both columns, as evenly as whole numbers allow. -/
def narrowBoth (excess left right : Nat) : Nat × Nat :=
  let first := roundHalfEven excess 2
  (left - first, right - (excess - first))

/-- The widths of two columns narrowed to a limit: the wider one first down to the other, then
both. -/
def narrow (limit left right : Nat) : Nat × Nat :=
  if left + right ≤ limit then (left, right)
  else
    let excess := left + right - limit
    if left = right then narrowBoth excess left right
    else
      let step := min excess (max left right - min left right)
      let (left', right') := if right < left then (left - step, right) else (left, right - step)
      if excess ≤ step then (left', right') else narrowBoth (excess - step) left' right'

/-- The lines of a cell, all of one width. -/
def cellLines (width : Nat) (text : Line) : List Line :=
  (wrap width .ellipsis text).map (padTo width)

/-- The lines of a row: those of its cells side by side. -/
def rowLines (left right : Nat) (row : Line × Line) : List Line :=
  let first := cellLines (left - 1) row.1
  let second := cellLines (right - 1) row.2
  (List.range (max first.length second.length)).map fun i =>
    (first[i]?.getD (spaces (left - 1))) ++ [' ', ' '] ++
      (second[i]?.getD (spaces (right - 1)))

/-- The lines of a table with a header. -/
def tableLines (limit : Nat) (header : String × String) (rows : List (String × String)) :
    List Line :=
  let strip := fun s => (stripControls s).toList
  let cells := (header :: rows).map fun row => (strip row.1, strip row.2)
  let (left, right) := narrow limit (columnWidth limit (cells.map (·.1)))
    (columnWidth limit (cells.map (·.2)))
  cells.flatMap (rowLines left right)

/-- The width of tables that are logged. -/
def tableWidth : Nat := 100

/-- A table as text for the log. -/
def table (header : String × String) (rows : List (String × String)) : String :=
  clean (String.ofList ((tableLines tableWidth header rows).flatMap (· ++ ['\n'])))

end LineShell.Layout
