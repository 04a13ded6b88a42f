import LineShell.Fault

/-!
Faults as a host builds them: a kind with a message and options, each of which may be left out, or
may be of the wrong kind.
-/

namespace LineShell

/-- The options of a fault. -/
structure FaultOptions where
  code : Option (Option FaultCode) := none
  title : Option String := none
  hint : Option String := none
  trace : Option String := none
  exception : Option Failure := none
  details : List (String × Value) := []

/-- A fault of a kind with a message, which must be a text if it is given. The fault that wraps a
failure needs that failure, and takes its trace unless it brings another. -/
def Fault.make (kind : FaultKind) (message : Option Value) (o : FaultOptions) :
    Except Failure Fault :=
  if kind = .handlerFault && o.exception.isNone then
    .error ⟨.type, "HandlerFaultError.__init__() missing 1 required keyword-only argument: " ++
      "'exception'"⟩
  else
    let wrapped := if kind = .handlerFault then o.exception.map Failure.trace else none
    let trace := o.trace.or wrapped
    let fault (message : Option String) : Fault :=
      { kind, message
        code := o.code.getD kind.code?
        title := o.title.getD kind.title
        hint := o.hint.getD ""
        trace := trace.getD ""
        details := o.details ++ (wrapped.map fun t => ("trace", Value.text t)).toList }
    match message with
    | none => .ok (fault none)
    | some (.text message) => .ok (fault (some message))
    | some .unset => .ok (fault none)
    | some _ => .error ⟨.assertion, ""⟩

/-- A failure of the host of a kind with what it was raised with. A single value is its message,
and a key is shown between quotes; several values are shown side by side. -/
def Failure.ofHost (kind : ErrorKind) : List Value → Except Failure Failure
  | [] => .ok ⟨kind, ""⟩
  | [v] => do
    let plain ← v.render
    return ⟨kind, if kind = .key then v.quoted else plain⟩
  | values => .ok ⟨kind, "(" ++ ", ".intercalate (values.map Value.quoted) ++ ")"⟩

end LineShell
