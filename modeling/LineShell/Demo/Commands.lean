import LineShell.Command.Host
import LineShell.Shell
import LineShell.Value.Sum

/-!
The commands of the demonstration: `add` adds two whole numbers, `greet` greets someone.
-/

namespace LineShell.Demo

/-- Adds two whole numbers, unless one of them cannot be read. -/
def addProgram : Program :=
  .ask (.argument 0 (.text "left") (some (.kind .int))) <| .onward fun left =>
  .ask (.argument 1 (.text "right") (some (.kind .int))) <| .onward fun right =>
  .ask .hasErrors <| .onward fun failed =>
    if failed.truthy then .done
    else match left.sum right with
      | .ok v => .log v .done
      | .error f => .breakOff f

/-- The text of a greeting. -/
def greeting (name : Value) (loud : Bool) : String :=
  let text := s!"Hello, {name.plain}!"
  if loud then String.ofList (Text.upper text.toList) else text

/-- Greets by name, loudly if asked to. -/
def greetProgram : Program :=
  .ask .arguments <| .onward fun arguments =>
    let greet (name : Value) : Program :=
      .ask (.flag (.text "loud") (some (.name "switch")) (.bool false) (.bool true)) <|
        .onward fun loud => .ask .endParsing <| .onward fun _ =>
          .log (.text (greeting name loud.truthy)) .done
    if arguments.truthy then .ask (.argument 0 (.text "name") none) (.onward greet)
    else greet (.text "world")

/-- The command `add`. -/
def add : Command :=
  let arity : Arity := ⟨2, some 2, by decide⟩
  { name := "add", arity, help := "Add two integers"
    extended := .ofText (CommandOptions.usage "add" "Add two integers" arity)
    tolerant := false
    handler := .plain "add" addProgram }

/-- The command `greet`. -/
def greet : Command :=
  let arity : Arity := ⟨0, some 1, by decide⟩
  let help := "Greet someone, optionally loudly"
  { name := "greet", arity, help
    extended := .ofText (CommandOptions.usage "greet" help arity)
    tolerant := false
    handler := .plain "greet" greetProgram }

end LineShell.Demo
