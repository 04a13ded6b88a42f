import LineShell.Shell.Builtin

/-!
Making shells of what a host hands over.
-/

namespace LineShell

/-- What a host hands over for a shell besides its commands. -/
structure ShellOptions where
  capacity : Value := .int Shell.defaultCapacity
  warningsAsErrors : Bool := true
  colorful : Bool := true
  fancy : Bool := false
  builtins : Bool := true
  clock : Clock

/-- A journal with the capacity that a host hands over. -/
def Journal.ofCapacity (capacity : Value) : Except Failure Journal := do
  let ring ← Ring.ofCapacity capacity
  return ⟨ring, 0⟩

namespace Shell

/-- A shell with commands. `echo` is always there, the other built-in commands if they are wanted;
those of the host come last. -/
def make (o : ShellOptions) (commands : List Registrable) : Except Failure Shell := do
  let journal ← Journal.ofCapacity o.capacity
  let bare := Shell.bare journal o.clock
  let shell : Shell :=
    { bare with
      context := bare.context.setWarningsAsErrors o.warningsAsErrors
      colorful := o.colorful
      fancy := o.fancy }
  let builtins := if o.builtins then Builtin.all else [.echo]
  match shell.registerAll (builtins.map (.ready ·.command) ++ commands) with
  | (.ok _, shell) => .ok shell
  | (.error f, _) => .error f

end Shell

end LineShell
