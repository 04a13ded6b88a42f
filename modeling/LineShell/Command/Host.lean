import LineShell.Program

/-!
Making commands of what a host hands over: a handler with options, or a row of parts.
-/

namespace LineShell

/-- A function of the host that may be a handler: its name, its documentation, and what it does;
it is given the rest of the line if it takes that as it stands. -/
structure HostHandler where
  name : String
  doc : Option String
  program : Option String → Program

/-- What a host hands over where a handler is expected. -/
inductive HandlerArgument
  | handler (h : HostHandler)
  | other (v : Value)

namespace HandlerArgument

/-- The value of what was handed over, for where a value is expected. -/
def value : HandlerArgument → Value
  | handler _ => .object "function"
  | other v => v

end HandlerArgument

/-- The handler of a function of the host. -/
def HostHandler.handler (h : HostHandler) (intercepted : Bool) : Handler :=
  if intercepted then .intercepting h.name fun remainder => h.program (some remainder)
  else .plain h.name (h.program none)

namespace CommandOptions

/-- The command of a handler that a host hands over. -/
def command (o : CommandOptions) (intercepted : Bool) : HandlerArgument →
    Except Failure Command
  | .handler h => o.make (commandLabel intercepted) (h.handler intercepted) h.name h.doc
  | .other _ => .error ⟨.type, s!"{commandLabel intercepted} handler must be callable"⟩

/-- The command of a function that is declared to be one. -/
def declare (o : CommandOptions) (intercepted : Bool) : HandlerArgument →
    Except Failure Command
  | .handler h => o.command intercepted (.handler h)
  | .other _ => .error ⟨.type, "@command() must be applied to a callable"⟩

/-- A part of a row that stands for its default if it is empty. -/
def givenOr (v : Value) : Value :=
  match v with
  | .none => .unset
  | v => v

/-- The failure of what should be a row. -/
def notARow : Failure :=
  ⟨.type, "command rows must be (name, min_args, max_args, help, extended_help, handler)"⟩

/-- The command of a row. -/
def ofRow : List HandlerArgument → Except Failure Command
  | [name, least, greatest, help, extended, handler] =>
    let o : CommandOptions :=
      { name := name.value, least := least.value, greatest := greatest.value
        help := givenOr help.value, extended := givenOr extended.value }
    o.command false handler
  | _ => .error notARow

/-- The parts of a value that is handed over as a row: the characters of a text, the names in a
record. -/
def parts : Value → List HandlerArgument
  | .text s => s.toList.map fun c => .other (.text (String.ofList [c]))
  | .list items => items.map .other
  | .record fields => fields.map fun field => .other (.text field.1)
  | _ => []

end CommandOptions

end LineShell
