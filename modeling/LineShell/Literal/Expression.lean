import LineShell.Literal.Token

/-!
Expressions as they are read. Only some of them are literals; of the others no more is kept than
diagnostics show: their form and their parts.
-/

namespace LineShell.Literal

/-- The forms of expressions with parts. An entry and a spread are parts of a dictionary. -/
inductive Form
  | tuple
  | set
  | dictionary
  | entry
  | spread
  | plus
  | minus
  | sum
  | difference
  | operation
  | comparison (membership : Bool)
  | conditional
  | lambda
  | starred
  | call
  | keyword
  | access
  | generator
  | setComprehension
  | dictComprehension
  | assignment
  | yielding
  | awaiting
  | formatted
deriving DecidableEq

/-- An expression. -/
inductive Expression
  | constant (c : Constant)
  | name (spelling : String)
  | node (form : Form) (parts : List Expression)

namespace Expression

/-- The words for a constant. -/
def constantForm : Constant → String
  | .nothing => "None"
  | .truth b => if b then "True" else "False"
  | .ellipsis => "ellipsis"
  | _ => "literal"

/-- The words for a form. -/
def formName : Form → String
  | .tuple => "tuple"
  | .set => "set display"
  | .dictionary => "dict literal"
  | .comparison _ => "comparison"
  | .conditional => "conditional expression"
  | .lambda => "lambda"
  | .starred => "starred"
  | .call => "function call"
  | .access => "attribute"
  | .generator => "generator expression"
  | .setComprehension => "set comprehension"
  | .dictComprehension => "dict comprehension"
  | .assignment => "named expression"
  | .yielding => "yield expression"
  | .awaiting => "await expression"
  | .formatted => "f-string expression"
  | _ => "expression"

/-- The words for an expression. -/
def form : Expression → String
  | constant c => constantForm c
  | name _ => "name"
  | node f _ => formName f

mutual

/-- The first part of an expression that cannot be assigned to, none if all of it can. Of a test for
membership only the left side counts, of another comparison nothing. -/
def unassignable? : Expression → Option Expression
  | name _ => none
  | node .tuple parts => firstUnassignable? parts
  | node .starred parts => firstUnassignable? parts
  | node (.comparison membership) parts =>
    if membership then headUnassignable? parts else none
  | node .access _ => none
  | e => some e

/-- The first part that cannot be assigned to among expressions. -/
def firstUnassignable? : List Expression → Option Expression
  | [] => none
  | e :: rest => unassignable? e <|> firstUnassignable? rest

/-- The first part of the first expression that cannot be assigned to. -/
def headUnassignable? : List Expression → Option Expression
  | [] => none
  | e :: _ => unassignable? e

end

mutual

/-- The number of expressions inside one another. -/
def depth : Expression → Nat
  | node _ parts => depthOf parts + 1
  | _ => 1

/-- The greatest depth of expressions. -/
def depthOf : List Expression → Nat
  | [] => 0
  | e :: rest => max (depth e) (depthOf rest)

end

/-- The names of statements that look like calls without parentheses. -/
def isStatementName : Expression → Bool
  | name spelling => spelling = "print" || spelling = "exec"
  | _ => false

end Expression

end LineShell.Literal
