import LineShell.Journal
import LineShell.Line.Scanner
import LineShell.NameMap
import LineShell.Parser.Registry

/-!
The context of a command: the line that is being read, what was read of it, the variables of the
session and the severities logged since the line began. Variables outlive the line; all else that is
read is forgotten with the next one.
-/

namespace LineShell

open LineShell.Line (Scanner)

/-- What a command finds and leaves. An option without a value is a flag. The messages in `logged`
are those logged through the context since the line began, oldest first, wherever the journal has
come to since. -/
structure Context where
  journal : Journal
  logged : List Message
  registry : Registry
  scanner : Option Scanner
  commandName : Option String
  remainder : String
  arguments : List String
  options : NameMap (Option String)
  bindings : NameMap String
  severities : Severities
  errorSeverities : Severities

namespace Context

/-- The severities that count as errors unless a host says otherwise. -/
def defaultErrors : Severities :=
  [.warning, .error]

/-- A context in which nothing has been read. -/
def fresh (journal : Journal) : Context where
  journal
  logged := []
  registry := .builtin
  scanner := none
  commandName := none
  remainder := ""
  arguments := []
  options := .empty
  bindings := .empty
  severities := []
  errorSeverities := defaultErrors

/-- Whether something that counts as an error was logged since the line began. -/
def hasErrors (c : Context) : Bool :=
  c.severities.meets c.errorSeverities

/-- Whether warnings count as errors. -/
def warningsAsErrors (c : Context) : Bool :=
  c.errorSeverities.contains .warning

/-- The context in which warnings do or do not count as errors. -/
def setWarningsAsErrors (c : Context) (enabled : Bool) : Context :=
  { c with
    errorSeverities :=
      if enabled then c.errorSeverities.add .warning else c.errorSeverities.remove .warning }

/-- What a host hands over as the severities that count as errors. -/
inductive SeveritiesArgument
  | members (severities : Severities)
  | other

/-- Sets the severities that count as errors. -/
def setErrorSeverities (c : Context) : SeveritiesArgument → Except Failure Context
  | .members severities => .ok { c with errorSeverities := severities }
  | .other => .error ⟨.type, "error_severities must be a set of Severity members"⟩

/-- Writes a message and remembers its severity. -/
def write (c : Context) (m : Message) : Context :=
  { c with
    severities := c.severities.add m.severity
    logged := c.logged ++ [m]
    journal := c.journal.write m }

/-- Logs a host value with the given parts of a message. The severity is remembered even if the
value has no text. -/
def log (c : Context) (text : Value) (m : Message) : Except Failure Message × Context :=
  match text.render with
  | .ok text => (.ok { m with text }, c.write { m with text })
  | .error f => (.error f, { c with severities := c.severities.add m.severity })

/-- Logs a text. -/
def logText (c : Context) (text : String) : Context :=
  c.write { text }

/-- Logs a fault. -/
def trigger (c : Context) (f : Fault) : Context :=
  c.write f.entry

/-- Logs what a host hands over as a fault. -/
def triggerAny (c : Context) : Raised → Except Failure Context
  | .fault f => .ok (c.trigger f)
  | .failure _ => .error ⟨.type, "trigger() argument must have a __trigger__ method"⟩

/-- The context without what was read of a line. The scanner stays until the next line. -/
def reset (c : Context) : Context :=
  { c with
    logged := []
    severities := []
    commandName := none
    remainder := ""
    arguments := []
    options := .empty }

/-- The context with a scanner past the white space at the start of a line. -/
def setInput (c : Context) (line : String) : Context :=
  { c with scanner := some (Scanner.ofLine line).skipBlanks }

/-- The context with a line that a host hands over. -/
def setInputAny (c : Context) (line : Value) : Except Failure Context := do
  let scanner ← Scanner.ofValue line
  return { c with scanner := some scanner.skipBlanks }

/-- The context with a variable bound to a value. -/
def bindVariable (c : Context) (name value : String) : Context :=
  { c with bindings := c.bindings.insert name value }

/-- The context as diagnostics show it. -/
def describe (c : Context) : String :=
  let name := Value.quoted ((c.commandName.map .text).getD .none)
  let arguments := Value.quoted (.list (c.arguments.map .text))
  let options := Value.quoted (.record (c.options.entries.map fun (key, value) =>
    (key, (value.map .text).getD .none)))
  s!"InvocationContext(command_name={name}, arguments={arguments}, options={options})"

@[simp] theorem logText_remainder (c : Context) (text : String) :
    (c.logText text).remainder = c.remainder := rfl

@[simp] theorem trigger_remainder (c : Context) (f : Fault) :
    (c.trigger f).remainder = c.remainder := rfl

@[simp] theorem reset_bindings (c : Context) : c.reset.bindings = c.bindings := rfl

@[simp] theorem write_logged (c : Context) (m : Message) :
    (c.write m).logged = c.logged ++ [m] := rfl

end Context

end LineShell
