import LineShell.Decimal.Fixed
import LineShell.Shell.Builtin
import LineShell.Shell.Gate

/-!
Dispatch: running the command that a line names. Whatever a handler breaks off with becomes a
message, so that a line always ends with an answer: whether nothing that counts as an error was
logged. `time` runs the rest of its own line, which is shorter; a handler may hand any other line to
the shell, which is bounded by the depth of such calls.
-/

namespace LineShell

/-- A way to run a line on a shell: the answer, or a failure to take the line at all. -/
abbrev Dispatcher := Value → Shell → Except Failure Bool × Shell

/-- Runs a program. -/
def Program.run (reenter : Dispatcher) : Program → Shell → Except Raised Unit × Shell
  | .done, s => (.ok (), s)
  | .raise r, s => (.error r, s)
  | .ask q next, s =>
    let (answer, context) := q.run s.context
    (next answer).run reenter { s with context }
  | .note v next, s => next.run reenter (s.note v)
  | .dispatch line next, s =>
    let (answer, s) := reenter line s
    (next answer).run reenter s
  | .register command next, s =>
    let (answer, s) := s.registerMade command
    (next answer).run reenter s
  | .listing next, s =>
    let (text, s) := s.listing
    (next (.ok text)).run reenter s

namespace Shell

/-- What a handler does with what was read of the line, unless it times another command. -/
def call (reenter : Dispatcher) (h : Handler) (s : Shell) : Except Raised Unit × Shell :=
  match h with
  | .builtin b =>
    let (result, s) := s.runBuiltin b
    (result.mapError .failure, s)
  | .plain _ program => program.run reenter s
  | .intercepting _ program => (program s.context.remainder).run reenter s

/-- What a handler does with the rest of the line as it stands. -/
def intercept (reenter : Dispatcher) (h : Handler) (remainder : String) (s : Shell) :
    Except Raised Unit × Shell :=
  match h with
  | .intercepting _ program => (program remainder).run reenter s
  | _ => (.ok (), s.mapContext (·.logText remainder))

/-- Logs what a handler broke off with. -/
def settle : Except Raised Unit × Shell → Shell
  | (.ok _, s) => s
  | (.error (.fault f), s) => s.mapContext (·.trigger f)
  | (.error (.failure f), s) => s.mapContext (·.trigger f.wrapped)

/-- The context in which the rest of the line is read again from its command name. -/
def rewind (s : Shell) : Bool × Shell :=
  let c := { s.context with arguments := [], options := .empty }.setInput s.context.remainder
  let (found, context) := c.readName (Line.Scanner.ofLine s.context.remainder).skipBlanks
  (found, { s with context })

/-- The shell after a reading of its clock. -/
def readClock (s : Shell) : Float × Shell :=
  let (reading, clock) := s.clock.read
  (reading, { s with clock })

/-- Logs how long a command took. -/
def logTiming (s : Shell) (name : String) (started ended : Float) : Shell :=
  let elapsed := Decimal.fixed 3 ((ended - started) * 1000)
  s.mapContext (·.logText s!"The command {name} took {elapsed} ms.")

@[simp] theorem readClock_context (s : Shell) : s.readClock.2.context = s.context := rfl

theorem length_remainder_of_rewind {s : Shell} (h : s.rewind.1 = true) :
    s.rewind.2.context.remainder.length < s.context.remainder.length := by
  refine Nat.lt_of_lt_of_le (Context.length_remainder_of_readName h) ?_
  refine Nat.le_trans (Line.Scanner.length_advance_rest_le ..) ?_
  simp [Line.Scanner.ofLine, Line.Scanner.rest, String.length_toList]

/-- Runs the command of a name on what follows the name in the line. -/
def runNamed (reenter : Dispatcher) (name : String) (s : Shell) : Shell :=
  match _judged : s.judge name with
  | (.stop, t) => t
  | (.intercept c, t) => settle (intercept reenter c.handler t.context.remainder t)
  | (.call c, t) =>
    if c.handler.isTimer then
      match _rewound : t.rewind with
      | (false, u) => u
      | (true, u) =>
        let inner := u.context.commandName.getD ""
        let started := u.readClock
        let ended := (runNamed reenter inner started.2).readClock
        ended.2.logTiming inner started.1 ended.1
    else settle (call reenter c.handler t)
termination_by s.context.remainder.length
decreasing_by
  have ht := judge_remainder s name
  have hu := length_remainder_of_rewind (s := t) (by rw [_rewound])
  rw [_judged] at ht
  rw [_rewound] at hu
  rw [readClock_context, ← ht]
  exact hu

/-- Times the command that the rest of the line names. -/
def runTimer (reenter : Dispatcher) (s : Shell) : Shell :=
  match s.rewind with
  | (false, u) => u
  | (true, u) =>
    let inner := u.context.commandName.getD ""
    let started := u.readClock
    let ended := (runNamed reenter inner started.2).readClock
    ended.2.logTiming inner started.1 ended.1

/-- Runs the command that the context names. -/
def runCurrent (reenter : Dispatcher) (s : Shell) : Except Failure Unit × Shell :=
  match s.context.commandName with
  | none => (.error notAName, s)
  | some name => (.ok (), runNamed reenter name s)

/-- Runs a line. -/
def runLine (reenter : Dispatcher) (line : String) (s : Shell) : Bool × Shell :=
  let (found, context) := s.context.start line
  let s := { s with context }
  let s := if found then runNamed reenter (context.commandName.getD "") s else s
  (!s.context.hasErrors, s)

/-- Runs a line that a host hands over; what is no text is refused once the context is reset. -/
def runLineAny (reenter : Dispatcher) : Dispatcher
  | .text line, s =>
    let (answer, s) := runLine reenter line s
    (.ok answer, s)
  | _, s => (.error Line.Scanner.notALine, s.mapContext (·.reset))

/-- The failure of handlers that hand lines to the shell without end. -/
def tooDeep : Failure :=
  ⟨.recursion, "maximum recursion depth exceeded"⟩

/-- Runs lines, where handlers may hand over further ones to the given depth. -/
def dispatcher : Nat → Dispatcher
  | 0 => fun _ s => (.error tooDeep, s)
  | depth + 1 => runLineAny (dispatcher depth)

/-- How deep handlers may hand lines to the shell. -/
def depthLimit : Nat := 1000

/-- The way in which handlers hand lines to the shell. -/
def reenter : Dispatcher :=
  dispatcher depthLimit

/-- Runs a line: whether nothing that counts as an error was logged. -/
def dispatch (s : Shell) (line : String) : Bool × Shell :=
  runLine reenter line s

/-- Runs a handler without the gate and without catching what it breaks off with. -/
def execute (s : Shell) (command : Command) : Except Raised Unit × Shell :=
  if command.handler.isIntercepting then
    (.error (.failure ⟨.notImplemented,
      s!"command {Text.quoted command.name} is intercepted and cannot be executed directly"⟩), s)
  else if command.handler.isTimer then (.ok (), runTimer reenter s)
  else call reenter command.handler s

/-- Runs the handler of the command under a name that a host hands over. -/
def executeNamed (s : Shell) (name : Value) : Except Raised Unit × Shell :=
  match nameOf name with
  | .error f => (.error (.failure f), s)
  | .ok name =>
    match s.find? name with
    | none => (.error (.failure (Value.none.lacks "execute")), s)
    | some command => s.execute command

/-- Runs the handler of a command on a text, which only some commands take. -/
def handOver (s : Shell) (command : Command) (text : String) : Except Raised Unit × Shell :=
  if command.isIntercepting then intercept reenter command.handler text s
  else (.error (.failure ((Value.object (commandLabel false)).lacks "intercept")), s)

end Shell

end LineShell
