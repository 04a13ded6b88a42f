import LineShell.Command.Host
import LineShell.Value.Sum

/-!
Scripts: handlers written as a list of actions, which are carried out in order until one breaks
off. What some actions answer is told to the host and can be logged later.
-/

namespace LineShell

/-- An action of a script. What is raised or registered may itself fail to be made. -/
inductive Action
  | argument (index : Int) (name : Value) (parser : Option Designator)
  | option (name : Value) (parser : Option Designator) (default : Value)
  | flag (name : Value) (parser : Option Designator) (default flagValue : Value)
  | endParsing
  | log (text : Value) (severity : Severity)
  | logLast
  | logSum
  | guard
  | raise (r : Except Failure Raised)
  | trigger (r : Except Failure Raised)
  | dispatch (line : Value)
  | set (name : Value) (value : String)
  | register (command : Except Failure (Option Command))
  | arguments
  | options
  | commandName
  | remainder

namespace Script

/-- The failure of an action that needs more answers than there are. -/
def tooFew : Failure :=
  ⟨.index, "list index out of range"⟩

/-- The sum of the last two answers, which are given last one first. -/
def sumOfLast : List Value → Except Failure Value
  | b :: a :: _ => a.sum b
  | _ => .error tooFew

/-- The program of a script. The answers so far are given last one first. -/
def program (remainder : Option String) (answers : List Value) : List Action → Program
  | [] => .done
  | action :: rest =>
    let goOn := program remainder answers rest
    let ask (q : Query) : Program := .ask q (.onward fun _ => goOn)
    let tell (q : Query) : Program :=
      .ask q (.onward fun v => .note v (program remainder (v :: answers) rest))
    match action with
    | .argument index name parser => tell (.argument index name parser)
    | .option name parser default => tell (.option name parser default)
    | .flag name parser default flagValue => tell (.flag name parser default flagValue)
    | .endParsing => ask .endParsing
    | .log text severity => ask (.log text severity)
    | .logLast =>
      match answers with
      | [] => .breakOff tooFew
      | v :: _ => .log v goOn
    | .logSum =>
      match sumOfLast answers with
      | .ok v => .log v goOn
      | .error f => .breakOff f
    | .guard => .ask .hasErrors (.onward fun v => if v.truthy then .done else goOn)
    | .raise (.ok r) => .raise r
    | .raise (.error f) => .breakOff f
    | .trigger (.ok r) => ask (.trigger r)
    | .trigger (.error f) => .breakOff f
    | .dispatch line =>
      .dispatch line (.onward fun b =>
        .note (.bool b) (program remainder (.bool b :: answers) rest))
    | .set name value => ask (.setVariable name value)
    | .register command => .register command (.onward fun _ => goOn)
    | .arguments => tell .arguments
    | .options => tell .options
    | .commandName => tell .commandName
    | .remainder =>
      match remainder with
      | none => tell .remainder
      | some r => .note (.text r) (program remainder (.text r :: answers) rest)

/-- The function of the host that carries out a script. -/
def handler (name : String) (doc : Option String) (actions : List Action) : HostHandler :=
  ⟨name, doc, fun remainder => program remainder [] actions⟩

end Script

end LineShell
