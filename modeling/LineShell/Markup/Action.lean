import LineShell.Failure
import LineShell.Literal.Check
import LineShell.Text.Blank
import LineShell.Text.Numeric
import LineShell.Text.Quoted

/-!
Action tags: they call a handler by name with literal arguments, or give literals alone. The
arguments have no effect on plain text, but they must be literals where the tag is closed.
-/

namespace LineShell.Markup

/-- The arguments in the parameters of an action: what stands in parentheses behind the name of a
handler, or all of it if there is no such call. -/
def argumentsOf (parameters : List Char) : List Char :=
  match parameters.dropWhile fun c => Text.isWordChar c || c = '.' with
  | [] => ['(', ')']
  | '(' :: inner =>
    if inner.getLast? = some ')' && !inner.contains '\n' then '(' :: inner else parameters
  | _ => parameters

/-- Makes sure that the parameters of an action are literals. The failure shows the arguments only
if they are spelled wrongly. -/
def checkAction (parameters : List Char) : Except Failure Unit :=
  let literals := argumentsOf (Text.trim parameters)
  match Literal.check literals with
  | .ok () => .ok ()
  | .error fault =>
    let text := Text.quoted (String.ofList literals)
    let given := Text.quoted (String.ofList parameters)
    let place := if fault.isSpelling then s!"{text} in {given}" else given
    .error ⟨.markup, s!"error parsing {place}; {fault.message}"⟩

end LineShell.Markup
