import LineShell.Context.Scan
import LineShell.Journal.Print
import LineShell.Layout.Table
import LineShell.Program

/-!
Shells: a table of commands around a context. Names of commands are unique in any case. The listing
of all commands is made when it is first asked for and kept until the next registration.
-/

namespace LineShell

/-- A clock that goes on by the same time at each reading. -/
structure Clock where
  tick : Float
  readings : Nat

/-- A reading of the clock, and the clock after it. -/
def Clock.read (c : Clock) : Float × Clock :=
  (Float.ofNat (c.readings + 1) * c.tick, { c with readings := c.readings + 1 })

/-- A shell: its commands, its context, how its log is rendered, its clock, and what handlers have
told the host. -/
structure Shell where
  context : Context
  commands : NameMap Command
  listingCache : Option String
  colorful : Bool
  fancy : Bool
  clock : Clock
  notes : List Value

/-- What a host hands over for registration: a command, or a row of its parts, which becomes one
when its turn comes. -/
inductive Registrable
  | ready (c : Command)
  | row (made : Except Failure Command)

/-- The command to register. -/
def Registrable.command : Registrable → Except Failure Command
  | ready c => .ok c
  | row made => made

namespace Shell

/-- The number of messages a shell keeps unless a host says otherwise. -/
def defaultCapacity : Nat := 512

/-- A shell without commands. -/
def bare (journal : Journal) (clock : Clock) : Shell where
  context := .fresh journal
  commands := .empty
  listingCache := none
  colorful := true
  fancy := false
  clock
  notes := []

/-- The shell after a handler has told the host a value. -/
def note (s : Shell) (v : Value) : Shell :=
  { s with notes := s.notes ++ [v] }

/-- The command under a name. -/
def find? (s : Shell) (name : String) : Option Command :=
  s.commands.find? name

/-- The shell with a command more; the name must be free. -/
def register (s : Shell) (c : Command) : Except Failure Shell :=
  if s.commands.contains c.name then
    .error ⟨.value, s!"command {Text.quoted c.name} is already registered"⟩
  else .ok { s with commands := s.commands.insert c.name c, listingCache := none }

/-- Registers what a host hands over as a command. -/
def registerAny (s : Shell) : Option Command → Except Failure Shell
  | some c => s.register c
  | none => .error ⟨.type, "register() argument must be a Command"⟩

/-- Registers what a handler hands over, which it may have failed to make. A shell that refuses it
stays as it is. -/
def registerMade (s : Shell) (made : Except Failure (Option Command)) :
    Except Failure Unit × Shell :=
  match made.bind s.registerAny with
  | .ok s => (.ok (), s)
  | .error f => (.error f, s)

/-- Registers commands and rows in order, up to the first that cannot be registered. -/
def registerAll (s : Shell) : List Registrable → Except Failure Unit × Shell
  | [] => (.ok (), s)
  | item :: rest =>
    match item.command.bind s.register with
    | .ok s => s.registerAll rest
    | .error f => (.error f, s)

/-- The table of all commands, made anew. -/
def freshListing (s : Shell) : String :=
  Layout.table ("Command", "Help") (s.commands.values.map fun c => (c.name, c.help))

/-- The listing of all commands, which is kept. -/
def listing (s : Shell) : String × Shell :=
  match s.listingCache with
  | some listing => (listing, s)
  | none => (s.freshListing, { s with listingCache := some s.freshListing })

/-- The shell with another context. -/
def mapContext (s : Shell) (f : Context → Context) : Shell :=
  { s with context := f s.context }

/-- Logs the listing of all commands. It is no message of the current line, so the context does
not count its severity. -/
def logCommands (s : Shell) : Shell :=
  let (text, s) := s.listing
  s.mapContext fun c => { c with journal := c.journal.write { text, severity := .shell } }

/-- No command of that name is registered. -/
def notFound (name : String) (hint : String := "") : Fault :=
  .ofCode .unknownCommand s!"Command '{name}' could not be found." hint

/-- Logs the extended help of a command. -/
def logHelp (s : Shell) (name : String) : Shell :=
  match s.find? name with
  | none => s.mapContext (·.trigger (notFound name))
  | some c => s.mapContext (·.logText c.extendedText)

/-- The words that may complete what is typed so far: references to variables, and names of
commands unless a reference is being typed. -/
def matchingWords (s : Shell) (partialWord : String) : List String :=
  let references := s.context.matchingReferences partialWord
  if partialWord.toList.head? = some '$' then references
  else references ++ s.commands.keysFrom (normalize partialWord)

/-- The messages from a position on as they are printed. -/
def render (s : Shell) (look : Look) (width : Nat) (start : Int) : Except Failure String :=
  s.context.journal.render look s.colorful s.fancy width start

/-- The shell as diagnostics show it. -/
def describe (s : Shell) : String :=
  let names := Value.quoted (.list (s.commands.keys.map .text))
  let ring := s.context.journal.ring
  s!"Shell(commands={names}, log={ring.size}/{ring.capacity})"

end Shell

end LineShell
