import LineShell.Fault.Code
import LineShell.Severity
import LineShell.Value

/-!
Faults: errors and warnings that reach the user as entries of the log. A fault is data; a command
may also raise one to break off with a message of its own.
-/

namespace LineShell

/-- The kinds of faults: a general error and a general warning, one kind for each code, and the
kinds that a host derives from these with a severity, code and title of their own. -/
inductive FaultKind
  | error
  | warning
  | coded (code : FaultCode)
  | host (severity : Severity) (code : Option FaultCode) (title : String)
deriving DecidableEq

namespace FaultKind

/-- The code that faults of a kind carry unless they bring their own. -/
def code? : FaultKind → Option FaultCode
  | coded code => some code
  | host _ code _ => code
  | _ => none

/-- The severity of a kind. -/
def severity : FaultKind → Severity
  | warning => .warning
  | coded .unknownOption => .warning
  | coded .extraArgument => .warning
  | host severity _ _ => severity
  | _ => .error

/-- The short label of a kind. -/
def title : FaultKind → String
  | error => "error"
  | warning => "warning"
  | coded .scanFailure => "malformed input"
  | coded .unboundVariable => "unbound variable"
  | coded .typeMismatch => "type mismatch"
  | coded .missingArgument => "missing argument"
  | coded .missingOption => "missing option"
  | coded .flagMisuse => "option used as flag"
  | coded .unknownCommand => "unknown command"
  | coded .arityMismatch => "wrong number of arguments"
  | coded .handlerFault => "command failed"
  | coded .unknownOption => "unknown option"
  | coded .extraArgument => "extra argument"
  | host _ _ title => title

/-- The kind of faults that wrap a failure of a handler. -/
abbrev handlerFault : FaultKind := coded .handlerFault

end FaultKind

/-- A fault. What is not given of code, title, hint and trace comes from its kind or stays empty;
`details` are the further facts that it carries. -/
structure Fault where
  kind : FaultKind
  message : Option String
  code : Option FaultCode := kind.code?
  title : String := kind.title
  hint : String := ""
  trace : String := ""
  details : List (String × Value) := []

namespace Fault

/-- A fault of the kind of a code. -/
def ofCode (code : FaultCode) (message : String) (hint : String := "") : Fault :=
  { kind := .coded code, message := some message, hint }

/-- The text of a fault. -/
def text (f : Fault) : String :=
  f.message.getD Value.unset.plain

/-- The message of a fault as it was given. -/
def given (f : Fault) : Value :=
  (f.message.map .text).getD .unset

/-- A fact about a fault by its name. What every fault has goes before the details. -/
def fact (f : Fault) (name : String) : Except Failure Value :=
  match name with
  | "severity" => .ok (.text f.kind.severity.name)
  | "code" => .ok ((f.kind.code?.map fun c => .int c.number).getD .none)
  | "title" => .ok (.text f.kind.title)
  | "message" => .ok f.given
  | "args" => .ok (.list [f.given])
  | "options" => .ok (.object "mappingproxy")
  | _ =>
    match f.details.lookup name with
    | some v => .ok v
    | none => .error ⟨.noAttribute, name⟩

end Fault

/-- What a handler may break off with: a fault, or a failure of its own. -/
inductive Raised
  | fault (f : Fault)
  | failure (f : Failure)

/-- The text of what was raised. -/
def Raised.text : Raised → String
  | fault f => f.text
  | failure f => f.message

/-- The first line of the trace of a failure that was raised. -/
def traceHeading : String := "Traceback (most recent call last):"

/-- The trace of a failure that no one raised. -/
def Failure.trace (f : Failure) : String :=
  f.line ++ "\n"

/-- The trace of a failure that a handler raised. -/
def Failure.raisedTrace (f : Failure) : String :=
  traceHeading ++ "\n" ++ f.trace

/-- The fault that wraps a failure of a handler. -/
def Failure.wrapped (f : Failure) : Fault where
  kind := .handlerFault
  message := some f.summary
  trace := f.raisedTrace

theorem Failure.raisedTrace_ne_empty (f : Failure) : f.raisedTrace ≠ "" := by
  intro h
  have := congrArg String.length h
  simp [Failure.raisedTrace, traceHeading, String.length_append] at this

end LineShell
