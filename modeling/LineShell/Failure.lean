/-!
Failures: what a caller learns of an operation that could not be carried out. Each part of the
library has causes of its own and turns them into failures.
-/

namespace LineShell

/-- The kinds of failure. A host has kinds of its own besides, each with a name and the label
under which traces show it. -/
inductive ErrorKind
  | assertion
  | noAttribute
  | index
  | key
  | lookup
  | markup
  | memory
  | notImplemented
  | overflow
  | recursion
  | runtime
  | type
  | value
  | zeroDivision
  | host (name label : String)
deriving DecidableEq

/-- The name under which a kind is reported. -/
def ErrorKind.name : ErrorKind → String
  | assertion => "AssertionError"
  | noAttribute => "AttributeError"
  | index => "IndexError"
  | key => "KeyError"
  | lookup => "LookupError"
  | markup => "MarkupError"
  | memory => "MemoryError"
  | notImplemented => "NotImplementedError"
  | overflow => "OverflowError"
  | recursion => "RecursionError"
  | runtime => "RuntimeError"
  | type => "TypeError"
  | value => "ValueError"
  | zeroDivision => "ZeroDivisionError"
  | host name _ => name

/-- The name of a kind in a trace. -/
def ErrorKind.label : ErrorKind → String
  | host _ label => label
  | kind => kind.name

/-- A failure: its kind and its text, which may be empty. -/
structure Failure where
  kind : ErrorKind
  message : String
deriving DecidableEq

/-- The text of a failure, or its kind where it has none. -/
def Failure.summary (f : Failure) : String :=
  if f.message.isEmpty then f.kind.name else f.message

/-- The line that reports a failure: its kind, then its text. -/
def Failure.line (f : Failure) : String :=
  if f.message.isEmpty then f.kind.label else f.kind.label ++ ": " ++ f.message

theorem ok_of_bind {α β : Type} {x : Except Failure α} {f : α → Except Failure β} {b : β}
    (h : (x >>= f) = .ok b) : ∃ a, x = .ok a ∧ f a = .ok b := by
  cases x with
  | error e => cases h
  | ok a => exact ⟨a, rfl, h⟩

end LineShell
