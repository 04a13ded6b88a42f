import LineShell.Value

/-!
Giving names to callables of the host. A name is given either at once or by a decorator, itself a
callable, that gives it later.
-/

namespace LineShell

/-- What a host hands over where a callable is expected. Not every callable takes another name. -/
inductive CallableArgument
  | nameable
  | fixed
  | other (v : Value)

namespace CallableArgument

/-- The name that was handed over, if it is one. -/
def name? : CallableArgument → Option String
  | other (.text name) => some name
  | _ => none

/-- Gives a callable a name. -/
def rename (c : CallableArgument) (name : String) : Except Failure String :=
  match c with
  | nameable => .ok name
  | _ => .error ⟨.type, "rename() first argument must be a updatable callable"⟩

/-- What giving a name comes to: a renamed callable, or a decorator that gives the name later. -/
inductive Renaming
  | renamed (name : String)
  | decorator (name : String)

/-- The name under which the decorator itself goes. -/
def decoratorName : String := "rename"

/-- Gives a name by one or two arguments. -/
def renameBy : List CallableArgument → Except Failure Renaming
  | [other _, _] => .error ⟨.type, "rename() first argument must be callable"⟩
  | [c, name] =>
    match name.name? with
    | some name => (c.rename name).map .renamed
    | none => .error ⟨.type, "rename() second argument must be a string"⟩
  | [name] =>
    match name.name? with
    | some name => .ok (.decorator name)
    | none => .error ⟨.type, "@rename() argument must be a string"⟩
  | arguments =>
    .error ⟨.type, s!"rename takes 1 to 2 arguments but {arguments.length} were given"⟩

/-- The name of the callable that giving a name results in. -/
def Renaming.name : Renaming → String
  | renamed name => name
  | decorator _ => decoratorName

/-- Applies a decorator to a callable. -/
def decorate (name : String) : CallableArgument → Except Failure String
  | other _ => .error ⟨.type, "@rename() must be applied to a callable"⟩
  | c => c.rename name

end CallableArgument

end LineShell
