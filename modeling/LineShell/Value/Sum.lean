import LineShell.Parser.Builtin

/-!
The sum of two host values: numbers are added, texts and lists joined.
-/

namespace LineShell.Value

/-- The failure to add values of kinds that do not go together. -/
def noSum (a b : Value) : Failure :=
  match a with
  | .text _ => ⟨.type, "can only concatenate str (not \"" ++ b.typeName ++ "\") to str"⟩
  | .list _ => ⟨.type, "can only concatenate list (not \"" ++ b.typeName ++ "\") to list"⟩
  | _ => ⟨.type, s!"unsupported operand type(s) for +: '{a.typeName}' and '{b.typeName}'"⟩

/-- The sum of two numbers one of which is no whole number. -/
def sumReal (a b : Value) : Except Failure Value := do
  match ← Parser.toReal a, ← Parser.toReal b with
  | .real x, .real y => return .real (x + y)
  | _, _ => .error (noSum a b)

/-- The sum of two values. -/
def sum (a b : Value) : Except Failure Value :=
  match a.toInt?, b.toInt? with
  | some m, some n => .ok (.int (m + n))
  | m, n =>
    match a, b with
    | .text s, .text t => .ok (.text (s ++ t))
    | .list xs, .list ys => .ok (.list (xs ++ ys))
    | .real _, .real _ => sumReal a b
    | .real _, _ => if n.isSome then sumReal a b else .error (noSum a b)
    | _, .real _ => if m.isSome then sumReal a b else .error (noSum a b)
    | _, _ => .error (noSum a b)

end LineShell.Value
