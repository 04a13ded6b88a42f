import LineShell.Context
import LineShell.Layout.Table

/-!
References to variables: a token that starts with a dollar sign stands for the value of the
variable whose name follows. A dollar sign alone is plain text.
-/

namespace LineShell

/-- The name that a token refers to. -/
def reference? (token : String) : Option String :=
  match token.toList with
  | '$' :: c :: rest => some (String.ofList (c :: rest))
  | _ => none

/-- The text that a token stands for, or the name that is not bound. -/
def lookUp (bindings : NameMap String) (token : String) : Except String String :=
  match reference? token with
  | none => .ok token
  | some name =>
    match bindings.find? name with
    | some value => .ok value
    | none => .error name

namespace Fault

/-- No variable of that name is bound. -/
def unbound (name : String) : Fault :=
  .ofCode .unboundVariable s!"No variable named {name}"

/-- No variable of that name is bound, with advice. -/
def unboundReference (name : String) : Fault :=
  .ofCode .unboundVariable s!"No variable named {name}" s!"bind it first with: set {name} <value>"

end Fault

namespace Context

/-- The text that a token stands for. A name that is not bound is logged. -/
def substitute (c : Context) (token : String) : Option String × Context :=
  match lookUp c.bindings token with
  | .ok text => (some text, c)
  | .error name => (none, c.trigger (.unboundReference name))

/-- References to variables whose names start with what is typed so far. -/
def matchingReferences (c : Context) (partialWord : String) : List String :=
  match partialWord.toList with
  | [] => (c.bindings.keysFrom "").map ("$" ++ ·)
  | '$' :: rest => (c.bindings.keysFrom (normalize (String.ofList rest))).map ("$" ++ ·)
  | _ => []

/-- Logs the names and values of all variables. -/
def logVariables (c : Context) : Context :=
  c.logText (Layout.table ("Name", "Value") c.bindings.entries)

@[simp] theorem substitute_remainder (c : Context) (token : String) :
    (c.substitute token).2.remainder = c.remainder := by
  unfold substitute
  split <;> rfl

end Context

end LineShell
