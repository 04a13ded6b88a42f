import LineShell.Shell

/-!
The built-in commands. All of them but `time` act on the shell directly; `time` runs another
command and belongs to dispatch.
-/

namespace LineShell

namespace Builtin

/-- The name of a built-in command. -/
def name : Builtin → String
  | clear => "clear"
  | set => "set"
  | help => "help"
  | time => "time"
  | noop => "noop"
  | log => "log"
  | echo => "echo"

/-- The one-line help of a built-in command. -/
def summary : Builtin → String
  | clear => "Clear the command console"
  | set => "List all variables or set a variable value"
  | help => "Display help for all commands or one command"
  | time => "Time the execution of a command"
  | noop => "Do nothing"
  | log => "Log a value (after variable substitution)"
  | echo => "Log the rest of the line verbatim"

/-- How many arguments a built-in command takes. -/
def arity : Builtin → Arity
  | clear => ⟨0, some 0, by simp⟩
  | set => ⟨0, some 2, by simp⟩
  | help => ⟨0, some 1, by simp⟩
  | time => ⟨1, none, by simp⟩
  | noop => ⟨0, some 0, by simp⟩
  | log => ⟨1, some 1, by simp⟩
  | echo => ⟨0, none, by simp⟩

/-- The extended help of `set`. -/
def setUsage : String :=
  "set: List all variables or set a variable value\n" ++
    "Usage: set              list every variable\n" ++
    "       set NAME         show the value of NAME\n" ++
    "       set NAME VALUE   bind NAME to VALUE (use $NAME afterwards)"

/-- The extended help of `time`. -/
def timeUsage : String :=
  "time: Time the execution of a command\nUsage: time COMMAND [ARGUMENTS...] [OPTIONS...]"

/-- The extended help of a built-in command. -/
def extended : Builtin → String
  | set => setUsage
  | time => timeUsage
  | b => CommandOptions.usage b.name b.summary b.arity

/-- A built-in command. -/
def command (b : Builtin) : Command where
  name := b.name
  arity := b.arity
  help := b.summary
  extended := .ofText b.extended
  tolerant := false
  handler := .builtin b

/-- The built-in commands in the order of their registration. The first one is part of every
shell. -/
def all : List Builtin :=
  [echo, clear, set, help, time, noop, log]

end Builtin

namespace Context

/-- Lists the variables, shows one or binds one, by the number of arguments. -/
def assign (c : Context) : Context :=
  match c.arguments with
  | [] => c.logVariables
  | [name] =>
    match c.bindings.find? name with
    | some value => c.logText s!"{name} = {value}"
    | none => c.trigger (.unbound name)
  | name :: value :: _ => c.bindVariable name value

/-- Logs the first argument. -/
def logArgument (c : Context) : Except Failure Unit × Context :=
  match c.argument 0 (.text "value") none with
  | (.error f, c) => (.error f, c)
  | (.ok v, c) =>
    let (logged, c) := c.log v { text := "" }
    (logged.map fun _ => (), c)

end Context

namespace Shell

/-- Logs the listing of all commands, or the extended help of the one that is named. -/
def showHelp (s : Shell) : Shell :=
  match s.context.arguments with
  | [] => s.logCommands
  | name :: _ => s.logHelp name

/-- What a built-in command does that does not run another one. -/
def runBuiltin (s : Shell) : Builtin → Except Failure Unit × Shell
  | .clear => (.ok (), s.mapContext fun c => { c with journal := c.journal.clear })
  | .set => (.ok (), s.mapContext (·.assign))
  | .help => (.ok (), s.showHelp)
  | .log =>
    let (result, context) := s.context.logArgument
    (result, { s with context })
  | .time | .noop | .echo => (.ok (), s)

end Shell

end LineShell
