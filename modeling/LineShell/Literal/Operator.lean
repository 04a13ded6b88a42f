import LineShell.Literal.Expression

/-!
Operators between operands: which of them bind more tightly, and the expression that a row of
operands with operators between them makes.
-/

namespace LineShell.Literal

/-- The operators between two operands, those that bind least tightly first. -/
def operatorRanks : List (List String) :=
  [["|"], ["^"], ["&"], ["<<", ">>"], ["+", "-"], ["*", "/", "//", "%", "@"]]

/-- The operators between two operands. -/
def operators : List String :=
  operatorRanks.flatten

/-- How tightly an operator binds. -/
def operatorRank (operator : String) : Nat :=
  operatorRanks.findIdx (·.contains operator)

/-- The form that an operator makes. -/
def operatorForm (operator : String) : Form :=
  if operator = "+" then .sum else if operator = "-" then .difference else .operation

/-- A row of operands that wait for what follows, last one first, each with the operator behind it.
The operators bind more tightly from one to the next. -/
abbrev Waiting := List (Expression × String)

/-- The operand that the waiting ones make with a last one, as far as their operators bind at least
as tightly as a rank, and the ones that go on waiting. -/
def combine (rank : Nat) (last : Expression) : Waiting → Expression × Waiting
  | [] => (last, [])
  | (left, operator) :: outer =>
    if rank ≤ operatorRank operator then
      combine rank (.node (operatorForm operator) [left, last]) outer
    else (last, (left, operator) :: outer)

/-- The expression that a row of operands makes. Operators of one rank bind to the left. -/
def assemble (waiting : Waiting) (operand : Expression) : List (String × Expression) → Expression
  | [] => (combine 0 operand waiting).1
  | (operator, next) :: rest =>
    let (left, outer) := combine (operatorRank operator) operand waiting
    assemble ((left, operator) :: outer) next rest

/-- The expression with signs in front. -/
def signed (signs : List String) (operand : Expression) : Expression :=
  signs.foldr (fun sign e =>
    let form : Form :=
      if sign = "+" then .plus else if sign = "-" then .minus else .operation
    .node form [e]) operand

end LineShell.Literal
