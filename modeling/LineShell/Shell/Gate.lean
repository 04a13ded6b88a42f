import LineShell.Shell
import LineShell.Shell.Similar

/-!
The gate between a command name and its handler. It reads the rest of the line and lets the handler
run only if all of it could be read, no help was asked for and the number of arguments is right;
a command that takes the rest of its line as it stands passes at once. Whatever stops a line is
logged here.
-/

namespace LineShell

/-- What the gate decides: no handler runs, the rest of the line is handed over, or the handler
runs with what was read. -/
inductive Verdict
  | stop
  | intercept (c : Command)
  | call (c : Command)

namespace Fault

/-- A number of arguments that a command does not take. -/
def wrongArity (c : Command) (count : Nat) : Fault :=
  let (bound, limit) :=
    if c.arity.greatest = some c.arity.least then ("exactly", c.arity.least)
    else if count < c.arity.least then ("at least", c.arity.least)
    else ("at most", c.arity.greatest.getD 0)
  let noun := Text.pluralize "argument" limit
  .ofCode .arityMismatch
    s!"Command '{c.name}' expects {bound} {limit} {noun}, got {count}."
    s!"run '{c.name} -help' for usage"

/-- An argument beyond those that a command takes. -/
def extraArgument (position : Nat) (argument : String) : Fault :=
  .ofCode .extraArgument s!"Extra argument '{argument}' at position {position}."

end Fault

namespace Context

/-- Whether the extended help is asked for. The option is consumed. -/
def asksHelp (c : Context) : Bool × Context :=
  let (answer, c) := c.takeFlag "help" .boolean (.bool false) (.bool true)
  match answer with
  | .ok v => (v.truthy, c)
  | .error _ => (false, c)

/-- Warns about each argument beyond the greatest number that a command takes. -/
def warnExtras (c : Context) (arity : Arity) : Context :=
  match arity.greatest with
  | none => c
  | some greatest =>
    (c.arguments.zipIdx.drop greatest).foldl
      (fun c (argument, i) => c.trigger (.extraArgument i argument)) c

@[simp] theorem warnExtras_remainder (c : Context) (arity : Arity) :
    (c.warnExtras arity).remainder = c.remainder := by
  unfold warnExtras
  split
  · rfl
  · next greatest _ =>
    generalize c.arguments.zipIdx.drop greatest = extras
    induction extras generalizing c with
    | nil => rfl
    | cons extra rest ih => simp [ih]

/-- Decides by what was read of the line whether the handler of a command runs. -/
def weigh (c : Context) (command : Command) : Verdict × Context :=
  let count := c.arguments.length
  let arity := command.arity
  if 0 < arity.least && c.arguments.isEmpty && c.options.entries.isEmpty then
    (.stop, c.logText command.extendedText)
  else if !arity.enough count || (!arity.within count && !command.tolerant) then
    (.stop, c.trigger (.wrongArity command count))
  else (.call command, c.warnExtras arity)

/-- Reads the rest of the line for a command and decides whether its handler runs. -/
def examine (c : Context) (command : Command) : Verdict × Context :=
  let c := match c.scanner with
    | some s => (c.readArguments s).2
    | none => c
  if c.hasErrors then (.stop, c)
  else
    let c := match c.scanner with
      | some s => (c.readOptions s).2
      | none => c
    if c.hasErrors then (.stop, c)
    else
      let (help, c) := c.asksHelp
      if help then (.stop, c.logText command.extendedText)
      else if c.hasErrors then (.stop, c)
      else c.weigh command

@[simp] theorem asksHelp_remainder (c : Context) : c.asksHelp.2.remainder = c.remainder := by
  have h : (c.takeFlag "help" .boolean (.bool false) (.bool true)).2.remainder = c.remainder :=
    takeFlag_remainder ..
  unfold asksHelp
  dsimp only
  split <;> exact h

@[simp] theorem weigh_remainder (c : Context) (command : Command) :
    (c.weigh command).2.remainder = c.remainder := by
  simp only [weigh]
  split
  · rfl
  · split <;> simp

@[simp] theorem examine_remainder (c : Context) (command : Command) :
    (c.examine command).2.remainder = c.remainder := by
  unfold examine
  cases c.scanner <;> dsimp only <;> (repeat' split) <;> simp

end Context

namespace Shell

/-- The advice for a name that is not registered. -/
def adviceFor (s : Shell) (name : String) : String :=
  let general := "type 'help' to list every command"
  match Similar.closest? (normalize name) s.commands.keys with
  | some similar => s!"did you mean {Text.quoted similar}? {general}"
  | none => general

/-- What the gate decides on a command name. -/
def judge (s : Shell) (name : String) : Verdict × Shell :=
  match s.find? name with
  | none => (.stop, s.mapContext (·.trigger (notFound name (s.adviceFor name))))
  | some command =>
    if command.handler.isIntercepting then (.intercept command, s)
    else
      let (verdict, context) := s.context.examine command
      (verdict, { s with context })

@[simp] theorem judge_remainder (s : Shell) (name : String) :
    (s.judge name).2.context.remainder = s.context.remainder := by
  unfold judge
  split
  · rfl
  · split
    · rfl
    · simp

end Shell

end LineShell
