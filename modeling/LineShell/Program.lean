import LineShell.Command
import LineShell.Context.Query

/-!
Programs: what the handlers of a host do. A program puts queries to its context, tells the host
what it sees, hands lines to the shell, registers commands, asks for their listing, and ends well or
breaks off. Whatever may be refused is answered with the failure, which the program may catch.
-/

namespace LineShell

/-- The commands that every shell may have. -/
inductive Builtin
  | clear
  | set
  | help
  | time
  | noop
  | log
  | echo
deriving DecidableEq

mutual

/-- What a handler does. -/
inductive Program
  | done
  | raise (r : Raised)
  | ask (q : Query) (next : Except Failure Value → Program)
  | note (v : Value) (next : Program)
  | dispatch (line : Value) (next : Except Failure Bool → Program)
  | register (command : Except Failure (Option (CommandOf Handler)))
      (next : Except Failure Unit → Program)
  | listing (next : Except Failure String → Program)

/-- A handler: a built-in one, one that sees what was read of the line, or one that is handed the
rest of the line as it stands. -/
inductive Handler
  | builtin (b : Builtin)
  | plain (name : String) (program : Program)
  | intercepting (name : String) (program : String → Program)

end

/-- A command of a shell. -/
abbrev Command := CommandOf Handler

/-- The name of the handler of a built-in command. -/
def Builtin.handlerName : Builtin → String
  | clear => "clear"
  | set => "assign"
  | help => "show_help"
  | time => "measure"
  | noop => "noop"
  | log => "log"
  | echo => "echo"

namespace Handler

/-- The name of a handler. -/
def name : Handler → String
  | builtin b => b.handlerName
  | plain name _ => name
  | intercepting name _ => name

/-- Whether the rest of the line is handed over as it stands. -/
def isIntercepting : Handler → Bool
  | builtin b => b = .echo
  | plain _ _ => false
  | intercepting _ _ => true

/-- Whether the handler times another command. -/
def isTimer : Handler → Bool
  | builtin b => b = .time
  | _ => false

end Handler

/-- Whether a command takes the rest of its line as it stands. -/
def CommandOf.isIntercepting (c : CommandOf Handler) : Bool :=
  c.handler.isIntercepting

/-- What diagnostics call a command. -/
def commandLabel (intercepting : Bool) : String :=
  if intercepting then "InterceptedCommand" else "Command"

/-- The command as diagnostics show it. -/
def CommandOf.describe (c : CommandOf Handler) : String :=
  let label := commandLabel c.isIntercepting
  s!"{label}(name={Text.quoted c.name}, min_args={c.arity.least}, " ++
    s!"max_args={c.arity.greatestCode}, help={Text.quoted c.help})"

namespace Program

/-- The program that breaks off with a failure. -/
def breakOff (f : Failure) : Program :=
  .raise (.failure f)

/-- Goes on from an answer; a failure is not caught. -/
def onward {α : Type} (next : α → Program) : Except Failure α → Program
  | .ok a => next a
  | .error f => .breakOff f

/-- The program as it goes without a shell: where it needs one it is answered with a failure. -/
def alone : Program → Program
  | .done => .done
  | .raise r => .raise r
  | .ask q next => .ask q fun answer => (next answer).alone
  | .note v next => .note v next.alone
  | .dispatch _ next => (next (.error (Value.none.lacks "dispatch"))).alone
  | .register _ next => (next (.error (Value.none.lacks "register"))).alone
  | .listing next => (next (.error (Value.none.lacks "listing"))).alone

/-- Logs a value. -/
def log (text : Value) (next : Program) : Program :=
  .ask (.log text .message) (onward fun _ => next)

/-- Logs the listing of all commands, past the context. -/
def logCommands (next : Program) : Program :=
  .listing <| onward fun text =>
    .ask (.record (.text text) { text := "", severity := .shell }) (onward fun _ => next)

end Program

/-- The handler as it goes without a shell. -/
def Handler.alone : Handler → Handler
  | .builtin b => .builtin b
  | .plain name program => .plain name program.alone
  | .intercepting name program => .intercepting name fun remainder => (program remainder).alone

/-- The command as it goes without a shell. -/
def CommandOf.alone (c : Command) : Command :=
  { c with handler := c.handler.alone }

end LineShell
