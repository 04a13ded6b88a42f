import LineShell.Text.Wording
import LineShell.Value

/-!
Commands: a handler under a name, with the number of arguments it takes and its help. A command is
made from what a host hands over, some of which may be left out and all of which is checked.
-/

namespace LineShell

/-- How many arguments a command takes; without a greatest number any more will do. -/
structure Arity where
  least : Nat
  greatest : Option Nat
  least_le : ∀ n ∈ greatest, least ≤ n

namespace Arity

/-- Whether a number of arguments is enough. -/
def enough (a : Arity) (count : Nat) : Bool :=
  a.least ≤ count

/-- Whether a number of arguments is not too great. -/
def within (a : Arity) (count : Nat) : Bool :=
  a.greatest.all (count ≤ ·)

/-- The greatest number as hosts write it: minus one if there is none. -/
def greatestCode (a : Arity) : Int :=
  (a.greatest.map Int.ofNat).getD (-1)

/-- The arity in words. -/
def describe (a : Arity) : String :=
  Text.describeArity a.least a.greatestCode

end Arity

/-- The extended help of a command: what a host gives for it, which need not be a text itself, and
its text. -/
structure ExtendedHelp where
  value : Value
  text : String
  render_value : value.render = .ok text

namespace ExtendedHelp

instance : Coe ExtendedHelp Value where
  coe := value

/-- The extended help that is a text. -/
def ofText (s : String) : ExtendedHelp :=
  ⟨.text s, s, Value.render_text s⟩

/-- The extended help that a value is, if the value has a text. -/
def ofValue (v : Value) : Except Failure ExtendedHelp :=
  match h : v.render with
  | .ok text => .ok ⟨v, text, h⟩
  | .error f => .error f

end ExtendedHelp

/-- A command, whose handler is of the given type. -/
structure CommandOf (H : Type) where
  name : String
  arity : Arity
  help : String
  extended : ExtendedHelp
  tolerant : Bool
  handler : H

namespace CommandOf

/-- The canonical name of a command. -/
def key {H : Type} (c : CommandOf H) : String :=
  normalize c.name

/-- The help that is logged for a command. -/
def extendedText {H : Type} (c : CommandOf H) : String :=
  c.extended.text

end CommandOf

/-- What a host hands over for a command besides its handler; `unset` if it is left out. -/
structure CommandOptions where
  name : Value := .unset
  least : Value := .int 0
  greatest : Value := .int (-1)
  help : Value := .unset
  extended : Value := .unset
  tolerant : Value := .bool false

namespace CommandOptions

/-- The first word on a subject in the documentation of a handler: its first line with text. -/
def firstLine (doc : String) : String :=
  match Text.lines (Text.trim doc.toList) with
  | [] => ""
  | line :: _ => String.ofList (Text.trim line)

/-- A command name without the white space around it. It must be a single word. -/
def checkName (label : String) : Value → Except Failure String
  | .text name =>
    let word := Text.trim name.toList
    if word.isEmpty || word.any Text.isBlank then
      .error ⟨.value, s!"{label} name must be a non-empty word"⟩
    else .ok (String.ofList word)
  | _ => .error ⟨.value, s!"{label} name must be a non-empty word"⟩

/-- A number of arguments. Truth values are no numbers. -/
def checkCount (label field : String) : Value → Except Failure Int
  | .int n => .ok n
  | _ => .error ⟨.type, s!"{label} {field} must be an integer"⟩

/-- The arity that two numbers give. -/
def checkArity (label : String) (least greatest : Int) : Except Failure Arity :=
  if least < 0 then .error ⟨.value, s!"{label} min_args must be zero or positive"⟩
  else if greatest = -1 then .ok ⟨least.toNat, none, by simp⟩
  else if h : least ≤ greatest then
    .ok ⟨least.toNat, some greatest.toNat, by
      intro n hn
      obtain rfl := Option.some.inj hn
      omega⟩
  else .error ⟨.value, s!"{label} max_args must be -1 or at least min_args"⟩

/-- The one-line help of a command. -/
def checkHelp (label : String) : Value → Except Failure String
  | .text help => .ok help
  | _ => .error ⟨.type, s!"{label} help must be a string"⟩

/-- The extended help unless a host gives it: the help, if there is any, and the usage. -/
def usage (name help : String) (arity : Arity) : String :=
  let usage := s!"Usage: {name} ({arity.describe})"
  if help.isEmpty then usage else s!"{name}: {help}\n{usage}"

/-- The command of a handler with a name and documentation of its own. The label is what
diagnostics call the command. -/
def make {H : Type} (o : CommandOptions) (label : String) (handler : H) (handlerName : String)
    (doc : Option String) : Except Failure (CommandOf H) := do
  let name ← checkName label (coalesce o.name (.text handlerName))
  let least ← checkCount label "min_args" o.least
  let greatest ← checkCount label "max_args" o.greatest
  let arity ← checkArity label least greatest
  let help ← checkHelp label (coalesce o.help (.text (firstLine (doc.getD ""))))
  let extended ← ExtendedHelp.ofValue (coalesce o.extended (.text (usage name help arity)))
  return {
    name, arity, help, extended
    tolerant := o.tolerant.truthy
    handler }

end CommandOptions

end LineShell
