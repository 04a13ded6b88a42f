import LineShell.Context.Access
import LineShell.Context.Scan
import LineShell.NameMap.Operation

/-!
The queries that a handler can put to its context. Each is answered by a host value.
-/

namespace LineShell

/-- A query of a handler: typed access to what was read, messages, variables, severities, what was
read as it stands, and the reading of lines itself. -/
inductive Query
  | argument (index : Int) (name : Value) (parser : Option Designator)
  | option (name : Value) (parser : Option Designator) (default : Value)
  | flag (name : Value) (parser : Option Designator) (default flagValue : Value)
  | endParsing
  | log (text : Value) (severity : Severity)
  | entry (text : Value) (parts : Message)
  | trigger (raised : Raised)
  | record (text : Value) (parts : Message)
  | clearJournal
  | setVariable (name : Value) (value : String)
  | unsetVariable (name : Value)
  | lookUp (name : Value)
  | bindings
  | logVariables
  | words (partialWord : String)
  | hasErrors
  | severities
  | errorSeverities
  | setErrorSeverities (severities : Context.SeveritiesArgument)
  | warningsAsErrors
  | setWarningsAsErrors (enabled : Bool)
  | arguments
  | setArguments (arguments : List String)
  | options
  | setOptions (options : List (String × Option String))
  | commandName
  | remainder
  | describe
  | reset
  | setInput (line : Value)
  | parseName
  | parseArguments
  | parseOptions
  | substitute (token : String)

/-- The value of an option, where a flag has none. -/
def optionValue (value : Option String) : Value :=
  (value.map .text).getD .none

/-- The answer to whether something could be read, and the context after it. -/
def readingAnswer (c : Context) : Except Failure (Bool × Context) → Except Failure Value × Context
  | .ok (read, c) => (.ok (.bool read), c)
  | .error f => (.error f, c)

/-- The answer to a change that may be refused, and the context after it. -/
def changeAnswer (c : Context) : Except Failure Context → Except Failure Value × Context
  | .ok c => (.ok .none, c)
  | .error f => (.error f, c)

/-- The answer to a query and the context after it. -/
def Query.run : Query → Context → Except Failure Value × Context
  | argument index name parser, c => c.argument index name parser
  | option name parser default, c => c.option name parser default
  | flag name parser default flagValue, c => c.flag name parser default flagValue
  | endParsing, c => (.ok .none, c.endParsing)
  | log text severity, c =>
    let (logged, c) := c.log text { text := "", severity }
    (logged.map fun _ => .none, c)
  | entry text parts, c =>
    let (logged, c) := c.log text parts
    (logged.map fun _ => .none, c)
  | trigger raised, c => changeAnswer c (c.triggerAny raised)
  | record text parts, c =>
    let (logged, journal) := c.journal.log text parts
    (logged.map fun _ => .none, { c with journal })
  | clearJournal, c => (.ok .none, { c with journal := c.journal.clear })
  | setVariable name value, c =>
    match nameOf name with
    | .ok name => (.ok .none, c.bindVariable name value)
    | .error f => (.error f, c)
  | unsetVariable name, c =>
    match nameOf name with
    | .error f => (.error f, c)
    | .ok name =>
      if c.bindings.contains name then
        (.ok .none, { c with bindings := c.bindings.erase name })
      else (.error (NameMap.missing name), c)
  | lookUp name, c =>
    match nameOf name with
    | .error f => (.error f, c)
    | .ok name =>
      match c.bindings.find? name with
      | some value => (.ok (.text value), c)
      | none => (.error (NameMap.missing name), c)
  | bindings, c =>
    (.ok (.list (c.bindings.entries.map fun (key, value) => .list [.text key, .text value])), c)
  | logVariables, c => (.ok .none, c.logVariables)
  | words partialWord, c => (.ok (.list ((c.matchingReferences partialWord).map .text)), c)
  | hasErrors, c => (.ok (.bool c.hasErrors), c)
  | severities, c => (.ok (.list (c.severities.names.map .text)), c)
  | errorSeverities, c => (.ok (.list (c.errorSeverities.names.map .text)), c)
  | setErrorSeverities members, c => changeAnswer c (c.setErrorSeverities members)
  | warningsAsErrors, c => (.ok (.bool c.warningsAsErrors), c)
  | setWarningsAsErrors enabled, c => (.ok .none, c.setWarningsAsErrors enabled)
  | arguments, c => (.ok (.list (c.arguments.map .text)), c)
  | setArguments texts, c => (.ok .none, { c with arguments := texts })
  | options, c =>
    (.ok (.list (c.options.entries.map fun (key, value) =>
      .list [.text key, optionValue value])), c)
  | setOptions pairs, c => (.ok .none, { c with options := NameMap.empty.insertAll pairs })
  | commandName, c => (.ok (optionValue c.commandName), c)
  | remainder, c => (.ok (.text c.remainder), c)
  | describe, c => (.ok (.text c.describe), c)
  | reset, c => (.ok .none, c.reset)
  | setInput line, c => changeAnswer c (c.setInputAny line)
  | parseName, c => readingAnswer c c.parseName
  | parseArguments, c => readingAnswer c c.parseArguments
  | parseOptions, c => readingAnswer c c.parseOptions
  | substitute token, c =>
    let (text, c) := c.substitute token
    (.ok (optionValue text), c)

end LineShell
