import LineShell.Literal.Evaluation
import LineShell.Literal.Field
import LineShell.Literal.Grammar

/-!
Checking a text of literals. A text that is no expression is read a second time to find out what is
wrong with it; faults of its characters go before faults of its expressions.
-/

namespace LineShell.Literal

/-- The greatest number of rules that read inside one another. -/
def levelLimit : Nat := 6000

/-- The greatest number of expressions inside one another. -/
def depthLimit : Nat := 2960

/-- The fault that is reported where `fault` has been found and `reach` tokens have been looked at.
What the remaining characters cannot be goes first; brackets left open in an earlier line do too. -/
def Tokens.reported (t : Tokens) (reach : Nat) (fault : Fault) : Fault :=
  if !t.ending.quiet then t.ending.fault
  else
    match t.ending.brackets, t.found[reach - 1]? with
    | b :: _, some last => if b.line < last.line then .neverClosed b.opening else fault
    | _, _ => fault

/-- The fault that is reported for one that a rule has found. Once the end of the text has been seen
there are no remaining characters. -/
def Tokens.blamed (t : Tokens) (reach : Nat) (fault : Fault) : Fault :=
  if fault = .exhausted || t.found.size < reach || (t.found.size = reach && t.ending.sudden) then
    fault
  else t.reported reach fault

/-- The fault of tokens that no rule reads, when nothing better is known. -/
def Tokens.fallback (t : Tokens) (firstReach reach : Nat) : Fault :=
  match t.found[firstReach - 1]? with
  | some ⟨.indent, _, _⟩ => .indented
  | some ⟨.unindent, _, _⟩ => .unindented
  | _ => t.reported reach .invalid

/-- The expression that tokens write by a rule. -/
def Tokens.read (t : Tokens) (start : Rule) (fields : Quotation → Except Fault Unit) :
    Except Fault Expression :=
  let pass (diagnosing : Bool) (reach : Nat) :=
    start.read levelLimit ⟨t, diagnosing, fields⟩ { reach }
  match pass false 0 with
  | .ok e _ => .ok e
  | .error (some f) first => .error (t.blamed first.reach f)
  | .error none first =>
    match pass true first.reach with
    | .error (some f) second => .error (t.blamed second.reach f)
    | .error none second => .error (t.fallback first.reach second.reach)
    | .ok _ second => .error (t.fallback first.reach second.reach)

/-- A fault found in a field. Faults of characters are reported as they are. -/
def Fault.ofField (fault : Fault) : Fault :=
  match fault with
  | .inField f => .inField f
  | _ => if fault.isLexical || fault = .exhausted then fault else .inField fault

/-- Makes sure that the expression of a field is proper, with `levels` levels of formatted text at
most. -/
def checkField (levels : Nat) (text : List Char) : Except Fault Unit :=
  match levels with
  | 0 => .error .exhausted
  | levels + 1 =>
    let found := tokens ('(' :: text ++ [')', '\n'])
    match found.read .field (checkFields (checkField levels)) with
    | .ok _ => .ok ()
    | .error f => .error f.ofField

/-- A text with one kind of line end. -/
def plainLines : List Char → List Char
  | '\r' :: '\n' :: rest => '\n' :: plainLines rest
  | '\r' :: rest => '\n' :: plainLines rest
  | c :: rest => c :: plainLines rest
  | [] => []

/-- The expression that a text writes. -/
def expressionOf (text : List Char) : Except Fault Expression :=
  if text.contains '\x00' then .error .nullCharacter
  else do
    let text := plainLines (text.dropWhile fun c => c = ' ' || c = '\t')
    let e ← (tokens text).read .whole (checkFields (checkField text.length))
    if depthLimit < e.depth then .error .tooDeep else return e

/-- Makes sure that a text is a literal. -/
def check (text : List Char) : Except Fault Unit := do
  let _ ← (← expressionOf text).value

end LineShell.Literal
